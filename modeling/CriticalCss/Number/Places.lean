import CriticalCss.Number.Shortest

/-!
# Doubles with a chosen number of places

A finite double is written with so many places behind the point, with so many places and a power of
ten, or with so many digits in whichever of these two ways is the more handy.  The exact value is
rounded to the nearest number with that many digits, a half to the even one.  The sign is left to the
caller.
-/

namespace CriticalCss.Binary64

/-- A finite double as a multiple of a power of ten, rounded to a whole one. -/
def Finite.multipleOf (value : Finite) (exponent : Int) : Nat :=
  match exponent with
  | .ofNat power => roundHalfEven value.units (unitsPerOne * Nat.pow 10 power)
  | .negSucc power => roundHalfEven (value.units * Nat.pow 10 (power + 1)) unitsPerOne

/-- The decimal digits of a number, at least so many of them. -/
def digitsOf (width number : Nat) : List Char :=
  let digits := Nat.toDigits 10 number
  List.replicate (width - digits.length) '0' ++ digits

/-- Digits with a point before the last ones.  A point with nothing behind it is left out unless it
is to be kept. -/
def withPoint (keepPoint : Bool) (places number : Nat) : List Char :=
  let digits := digitsOf (places + 1) number
  let whole := digits.take (digits.length - places)
  if places = 0 then if keepPoint then whole ++ ['.'] else whole
  else whole ++ '.' :: digits.drop (digits.length - places)

/-- A finite double with so many places behind the point. -/
def Finite.fixed (value : Finite) (keepPoint : Bool) (places : Nat) : List Char :=
  withPoint keepPoint places (value.multipleOf (-places))

/-- The leading digits of a finite double, one and so many more, and the power of ten of the first. -/
def Finite.leadingDigits (value : Finite) (places : Nat) : Nat × Int :=
  if value.units = 0 then (0, 0)
  else
    let power := value.leadingPower
    let digits := value.multipleOf (power - places)
    if digits = Nat.pow 10 (places + 1) then (Nat.pow 10 places, power + 1) else (digits, power)

/-- A finite double with so many places and a power of ten. -/
def Finite.scientific (value : Finite) (keepPoint : Bool) (places : Nat) : List Char :=
  let (digits, power) := value.leadingDigits places
  withPoint keepPoint places digits ++ 'e' :: Decimal.powerText 2 power

/-- Digits without zeros at the end of their fraction. -/
def trimFraction (text : List Char) : List Char :=
  if text.contains '.' then
    match text.reverse.dropWhile (· == '0') with
    | '.' :: rest => rest.reverse
    | rest => rest.reverse
  else text

/-- A finite double with so many digits, at least one.  A power of ten is written if it is less than
`-4` or if the digits do not reach down to ones. -/
def Finite.general (value : Finite) (keepZeros : Bool) (digits : Nat) : List Char :=
  let places := digits - 1
  let (leading, power) := value.leadingDigits places
  let trim := if keepZeros then id else trimFraction
  if power < -4 ∨ (places : Int) < power then
    trim (withPoint keepZeros places leading) ++ 'e' :: Decimal.powerText 2 power
  else trim (value.fixed keepZeros (places - power).toNat)

end CriticalCss.Binary64
