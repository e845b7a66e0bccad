import CriticalCss.Number.Integer
import CriticalCss.Number.Shortest

/-!
# Numbers

The numbers of a rule tree and of options: whole numbers of any size, doubles, and the truth values,
which count as one and zero.  They are compared by their exact values, never after rounding.
-/

namespace CriticalCss

/-- A number. -/
inductive Number where
  | truth (value : Bool)
  | whole (value : Int)
  | real (value : Binary64)
  deriving DecidableEq

/-- A point of the line of numbers with both ends, in units of the lowest scale of doubles. -/
inductive Point where
  | bottom
  | at (units : Int)
  | top
  deriving DecidableEq

namespace Point

/-- Strict order of points. -/
def less : Point → Point → Bool
  | bottom, bottom => false
  | bottom, _ => true
  | .at left, .at right => decide (left < right)
  | .at _, bottom => false
  | .at _, top => true
  | top, _ => false

end Point

namespace Number

/-- The value of a truth value. -/
def ofTruth (value : Bool) : Int := if value then 1 else 0

/-- The point of a number; an undefined number has none. -/
def point? : Number → Option Point
  | truth value => some (.at (ofTruth value * Binary64.unitsPerOne))
  | whole value => some (.at (value * Binary64.unitsPerOne))
  | real .nan => none
  | real (.infinite true) => some .bottom
  | real (.infinite false) => some .top
  | real (.finite value) => some (.at value.signedUnits)

/-- Whether a number is less than another; an undefined one is neither less nor greater. -/
def less (left right : Number) : Bool :=
  match left.point?, right.point? with
  | some left, some right => left.less right
  | _, _ => false

/-- Whether two numbers have the same value; an undefined one has none. -/
def same (left right : Number) : Bool :=
  match left.point?, right.point? with
  | some left, some right => left == right
  | _, _ => false

/-- Whether a number is less than another or has the same value. -/
def atMost (left right : Number) : Bool := left.less right || left.same right

/-- Whether a number has too many digits to be written. -/
def isTooLong : Number → Bool
  | whole value => Integer.isTooLong value
  | _ => false

/-- The text of a number. -/
def render : Number → String
  | truth true => "True"
  | truth false => "False"
  | whole value => String.ofList (Integer.render value)
  | real value => String.ofList value.render

/-- The double nearest to a number, or nothing if a whole number is beyond all doubles. -/
def toBinary64? : Number → Option Binary64
  | truth value => some (Binary64.ofInt (ofTruth value))
  | whole value =>
    match Binary64.ofInt value with
    | .infinite _ => none
    | rounded => some rounded
  | real value => some value

/-- A number cut to a whole one, toward zero; an infinite or undefined one has no whole part. -/
def truncate? : Number → Option Int
  | truth value => some (ofTruth value)
  | whole value => some value
  | real (.finite value) => some value.truncate
  | real _ => none

end Number

end CriticalCss
