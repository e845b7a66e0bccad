import CriticalCss.Number.Decimal
import CriticalCss.Number.Integer

/-!
# Doubles as text

A double is read from decimal notation with digits of any script, single underscores between digits
and blanks around it, or from one of the names of the values that are not finite.
-/

namespace CriticalCss.Binary64

/-- The names of values that are not finite, in lower case. -/
def named? (text : List Char) : Option (Bool → Binary64) :=
  let name := String.ofList (text.map Char.toLower)
  if name = "inf" ∨ name = "infinity" then some .infinite
  else if name = "nan" then some fun _ => .nan
  else none

/-- Whether an underscore stands between two digits wherever there is one. -/
def underscoresBetweenDigits : Bool → List Char → Bool
  | _, [] => true
  | afterDigit, '_' :: rest =>
    afterDigit && (match rest with
      | char :: _ => Text.isDecimal char
      | [] => false) && underscoresBetweenDigits false rest
  | _, char :: rest => underscoresBetweenDigits (Text.isDecimal char) rest

/-- A run of digits, and the text after it. -/
def digitRun : List Char → List Nat × List Char
  | [] => ([], [])
  | char :: rest =>
    match Text.decimalValue? char with
    | some value =>
      let (values, rest) := digitRun rest
      (value :: values, rest)
    | none => ([], char :: rest)

/-- The power of ten at the end of a number. -/
def powerOfTen? : List Char → Option Int
  | [] => some 0
  | mark :: rest =>
    if mark = 'e' ∨ mark = 'E' then
      let (negative, rest) := Integer.splitSign rest
      match digitRun rest with
      | ([], _) => none
      | (values, []) =>
        let magnitude : Int := Integer.ofDigitValues values
        some (if negative then -magnitude else magnitude)
      | _ => none
    else none

/-- Reads a number in decimal notation, without sign and underscores. -/
def unsigned? (negative : Bool) (text : List Char) : Option Binary64 :=
  let (whole, rest) := digitRun text
  let (fraction, rest) := match rest with
    | '.' :: rest => digitRun rest
    | rest => ([], rest)
  if whole.isEmpty && fraction.isEmpty then none
  else (powerOfTen? rest).map fun power =>
    Decimal.toBinary64
      ⟨negative, Integer.ofDigitValues (whole ++ fraction), power - (fraction.length : Int)⟩

/-- Reads a double. -/
def read? (text : List Char) : Option Binary64 :=
  let (negative, text) := Integer.splitSign (Text.trimEnds Integer.isPadding text)
  match named? text with
  | some value => some (value negative)
  | none =>
    if underscoresBetweenDigits false text then unsigned? negative (text.filter (· != '_'))
    else none

end CriticalCss.Binary64
