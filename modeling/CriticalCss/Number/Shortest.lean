import CriticalCss.Number.Decimal

/-!
# The shortest decimal of a double

A double is written with the fewest significant digits that read back as the same double, and among
decimals of that length with the one nearest to it.  A decimal is a candidate only if it reads back,
and the exact expansion stands behind all candidates, so what is chosen always reads back.
-/

namespace CriticalCss.Binary64

/-- The power of ten of the leading decimal digit of a finite double other than zero. -/
def Finite.leadingPower (value : Finite) : Int :=
  (Nat.toDigits 10 (value.units * Nat.pow 10 400 / unitsPerOne)).length - 401

/-- The two neighbours of a finite double on the grid of multiples of `10 ^ exponent`, the nearer
one first; at the middle, the even one. -/
def Finite.neighbours (value : Finite) (exponent : Int) : List Decimal :=
  let (numerator, denominator) := match exponent with
    | .ofNat power => (value.units, unitsPerOne * Nat.pow 10 power)
    | .negSucc power => (value.units * Nat.pow 10 (power + 1), unitsPerOne)
  let below := numerator / denominator
  let nearest := roundHalfEven numerator denominator
  let other := if nearest = below then below + 1 else below
  [⟨value.negative, nearest, exponent⟩, ⟨value.negative, other, exponent⟩]

/-- The decimal equal to a finite double. -/
def Finite.exactDecimal (value : Finite) : Decimal :=
  ⟨value.negative, value.units * Nat.pow 5 1074, -1074⟩

/-- Whether a decimal reads back as the double. -/
def Finite.isReadFrom (value : Finite) (candidate : Decimal) : Bool :=
  decide (candidate.toBinary64 = .finite value)

/-- The decimal a finite double is written as: the first that reads back on grids of one digit, of
two digits, and so on. -/
def Finite.shortest (value : Finite) : Decimal :=
  let onGrid (extra : Nat) := (value.neighbours (value.leadingPower - extra)).find? value.isReadFrom
  ((List.range 17).findSome? onGrid).getD value.exactDecimal

/-- The text of a finite double. -/
def Finite.render (value : Finite) : List Char :=
  value.shortest.render .standard

/-- The text of a double. -/
def render : Binary64 → List Char
  | .nan => ['n', 'a', 'n']
  | .infinite false => ['i', 'n', 'f']
  | .infinite true => ['-', 'i', 'n', 'f']
  | .finite value => value.render

end CriticalCss.Binary64
