/-!
# Double-precision numbers

The numbers of a rule tree that are not whole are IEEE doubles.  A finite one is kept exactly, as a
significand over a power of two, so that rounding, comparison and printing are statements about
natural numbers.  `Binary64.roundRatio` is the only place where a value is rounded: to the nearest
double, a half going to the even neighbour.  Powers are written `Nat.pow`, which means the same
beside any other library.
-/

namespace CriticalCss

/-- A finite double: `± significand * 2 ^ scale / 2 ^ 1074`.  The significand fills 53 bits unless
the scale is the lowest one, so every value but zero has one representation. -/
structure Binary64.Finite where
  negative : Bool
  significand : Nat
  scale : Nat
  canonical : significand < Nat.pow 2 53 ∧ scale ≤ 2045 ∧ (scale = 0 ∨ Nat.pow 2 52 ≤ significand)
  deriving DecidableEq

/-- A double-precision number. -/
inductive Binary64 where
  | nan
  | infinite (negative : Bool)
  | finite (value : Binary64.Finite)
  deriving DecidableEq

namespace Binary64

/-- The power of two that one unit of the lowest scale divides into one. -/
def unitsPerOne : Nat := Nat.pow 2 1074

/-- The double of a sign, a significand and a scale; too large a scale makes it infinite. -/
def pack (negative : Bool) (significand scale : Nat) : Binary64 :=
  if fits : significand < Nat.pow 2 53 ∧ scale ≤ 2045 ∧
      (scale = 0 ∨ Nat.pow 2 52 ≤ significand) then
    .finite ⟨negative, significand, scale, fits⟩
  else
    .infinite negative

/-- Zero with a sign. -/
def zero (negative : Bool) : Binary64 := pack negative 0 0

/-- A quotient rounded to the nearest natural number, a half to the even one. -/
def roundHalfEven (numerator denominator : Nat) : Nat :=
  let quotient := numerator / denominator
  let twice := 2 * (numerator % denominator)
  if twice < denominator then quotient
  else if denominator < twice then quotient + 1
  else if quotient % 2 = 0 then quotient else quotient + 1

/-- The least scale at which a quotient of `units` fits the 53 bits of a significand. -/
def scaleFor (units : Nat) : Nat := Nat.log2 units - 52

/-- The double nearest to `± numerator / denominator`. -/
def roundRatio (negative : Bool) (numerator denominator : Nat) : Binary64 :=
  let units := numerator * unitsPerOne
  let scale := scaleFor (units / denominator)
  let significand := roundHalfEven units (denominator * Nat.pow 2 scale)
  if significand = Nat.pow 2 53 then pack negative (Nat.pow 2 52) (scale + 1)
  else pack negative significand scale

/-- The double nearest to a whole number. -/
def ofInt (value : Int) : Binary64 := roundRatio (decide (value < 0)) value.natAbs 1

/-- The magnitude of a finite double, counted in units of the lowest scale. -/
def Finite.units (value : Finite) : Nat := value.significand * Nat.pow 2 value.scale

/-- A finite double counted in units of the lowest scale, with its sign. -/
def Finite.signedUnits (value : Finite) : Int :=
  if value.negative then - (value.units : Int) else value.units

/-- The whole part of a finite double, cut toward zero. -/
def Finite.truncate (value : Finite) : Int :=
  if value.negative then - ((value.units / unitsPerOne : Nat) : Int)
  else ((value.units / unitsPerOne : Nat) : Int)

/-- Whether a double is neither infinite nor undefined. -/
def isFinite : Binary64 → Bool
  | .finite _ => true
  | _ => false

end Binary64

end CriticalCss
