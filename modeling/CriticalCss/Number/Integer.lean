import CriticalCss.Text.Blank
import CriticalCss.Text.Digit

/-!
# Whole numbers as text

A whole number is read from decimal digits of any script, with an optional sign, single underscores
between digits, and blanks around it.  Numbers of more than 4300 digits are neither read nor
written.
-/

namespace CriticalCss.Integer

/-- The greatest number of digits that is read or written. -/
def digitLimit : Nat := 4300

/-- What is said about a text with too many digits. -/
def tooLongMessage (digits : Nat) : String :=
  s!"Exceeds the limit ({digitLimit} digits) for integer string conversion: " ++
    s!"value has {digits} digits; use sys.set_int_max_str_digits() to increase the limit"

/-- What is said about a number with too many digits. -/
def unwritableMessage : String :=
  s!"Exceeds the limit ({digitLimit} digits) for integer string conversion; " ++
    "use sys.set_int_max_str_digits() to increase the limit"

/-- Why a text is not read as a whole number. -/
inductive ReadError where
  | notANumber
  | tooLong (digits : Nat)
  deriving DecidableEq

/-- The values of digits with single underscores between them. -/
def digitValues? : List Char → Option (List Nat)
  | [] => none
  | [char] => (Text.decimalValue? char).map ([·])
  | char :: '_' :: rest =>
    match Text.decimalValue? char, digitValues? rest with
    | some value, some values => some (value :: values)
    | _, _ => none
  | char :: rest =>
    match Text.decimalValue? char, digitValues? rest with
    | some value, some values => some (value :: values)
    | _, _ => none

/-- The number with the given decimal digits. -/
def ofDigitValues (values : List Nat) : Nat :=
  values.foldl (fun number value => 10 * number + value) 0

/-- Whether a character may surround a number: a blank other than the four separators of information
that ASCII has. -/
def isPadding (char : Char) : Bool := Text.isBlank char && !(28 ≤ char.toNat && char.toNat ≤ 31)

/-- Splits a sign off a text. -/
def splitSign : List Char → Bool × List Char
  | '-' :: rest => (true, rest)
  | '+' :: rest => (false, rest)
  | text => (false, text)

/-- Reads a whole number. -/
def read (text : List Char) : Except ReadError Int :=
  let (negative, digits) := splitSign (Text.trimEnds isPadding text)
  match digitValues? digits with
  | none => .error .notANumber
  | some values =>
    if digitLimit < values.length then .error (.tooLong values.length)
    else
      let magnitude : Int := ofDigitValues values
      .ok (if negative then -magnitude else magnitude)

/-- The decimal digits of a whole number, with its sign. -/
def render (value : Int) : List Char :=
  if value < 0 then '-' :: Nat.toDigits 10 value.natAbs else Nat.toDigits 10 value.natAbs

/-- Whether a whole number has too many digits to be written. -/
def isTooLong (value : Int) : Bool := decide (Nat.pow 10 digitLimit ≤ value.natAbs)

end CriticalCss.Integer
