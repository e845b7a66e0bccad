import CriticalCss.Number.Reading
import CriticalCss.Value

/-!
# Reading JSON

A JSON text is read in one pass; the first fault met is reported with the text left unread at that
point.  Beyond the standard, `NaN`, `Infinity` and `-Infinity` are numbers.  Whole numbers keep all
their digits, and numbers with a fraction or a power of ten become doubles.

Texts are made of characters, so a half of a character that stands alone, which the notation allows
as an escape, is outside the model: `charOfUnit` puts the replacement character in its place.
-/

namespace CriticalCss.Json

/-- Why a text is no JSON text. -/
inductive Problem where
  | expectingValue
  | expectingName
  | expectingColon
  | expectingComma
  | unterminatedText
  | controlCharacter
  | badEscape
  | badUnitEscape
  | extraData
  | byteOrderMark
  | tooLong (digits : Nat)
  deriving DecidableEq

/-- A description of the problem. -/
def Problem.message : Problem → String
  | expectingValue => "Expecting value"
  | expectingName => "Expecting property name enclosed in double quotes"
  | expectingColon => "Expecting ':' delimiter"
  | expectingComma => "Expecting ',' delimiter"
  | unterminatedText => "Unterminated string starting at"
  | controlCharacter => "Invalid control character at"
  | badEscape => "Invalid \\escape"
  | badUnitEscape => "Invalid \\uXXXX escape"
  | extraData => "Extra data"
  | byteOrderMark => "Unexpected UTF-8 BOM (decode using utf-8-sig)"
  | tooLong digits => Integer.tooLongMessage digits

/-- A problem, and the text that was left when it was met. -/
structure Error where
  problem : Problem
  unread : List Char
  deriving DecidableEq

/-- The line of the error in the text, counted from one. -/
def Error.line (source : List Char) (error : Error) : Nat :=
  (source.take (source.length - error.unread.length)).count '\n' + 1

/-- Whether a character may stand between the parts of a JSON text. -/
def isSpace (char : Char) : Bool :=
  char == ' ' || char == '\n' || char == '\t' || char == '\r'

/-- The text after any space. -/
def skipSpace (text : List Char) : List Char := text.dropWhile isSpace

/-! ## Texts -/

/-- The value of a hexadecimal digit. -/
def hexValue? (char : Char) : Option Nat :=
  if '0' ≤ char ∧ char ≤ '9' then some (char.toNat - 48)
  else if 'a' ≤ char ∧ char ≤ 'f' then some (char.toNat - 87)
  else if 'A' ≤ char ∧ char ≤ 'F' then some (char.toNat - 55)
  else none

/-- The value of four hexadecimal digits. -/
def unit? (first second third fourth : Char) : Option Nat := do
  let first ← hexValue? first
  let second ← hexValue? second
  let third ← hexValue? third
  let fourth ← hexValue? fourth
  return ((first * 16 + second) * 16 + third) * 16 + fourth

/-- Whether a code unit is the first half of a character. -/
def isHighUnit (unit : Nat) : Bool := decide (0xD800 ≤ unit ∧ unit ≤ 0xDBFF)

/-- Whether a code unit is the second half of a character. -/
def isLowUnit (unit : Nat) : Bool := decide (0xDC00 ≤ unit ∧ unit ≤ 0xDFFF)

/-- The character of a code unit.  A half of a character that stands alone is outside the model,
and the replacement character stands for it. -/
def charOfUnit (unit : Nat) : Char :=
  if isHighUnit unit || isLowUnit unit then '\ufffd' else Char.ofNat unit

/-- Characters that stand for themselves or for a control character after a backslash. -/
def escaped? : Char → Option Char
  | '\x22' => some '\x22'
  | '\\' => some '\\'
  | '/' => some '/'
  | 'b' => some '\x08'
  | 'f' => some '\x0c'
  | 'n' => some '\n'
  | 'r' => some '\r'
  | 't' => some '\t'
  | _ => none

/-- The second half of a character, and the text behind it. -/
def lowUnit? : List Char → Option (Option Nat × List Char)
  | '\\' :: 'u' :: first :: second :: third :: fourth :: next :: rest =>
    some (unit? first second third fourth, next :: rest)
  | _ => none

/-- A code unit escape after its `u`, with the text behind it: two escapes in a row may make up one
character.  Behind the digits there must be some more text. -/
def readUnit : List Char → Option (Char × List Char)
  | first :: second :: third :: fourth :: next :: rest =>
    match unit? first second third fourth with
    | none => none
    | some high =>
      if isHighUnit high then
        match lowUnit? (next :: rest) with
        | some (none, _) => none
        | some (some low, behind) =>
          if isLowUnit low then
            some (Char.ofNat (0x10000 + (high - 0xD800) * 0x400 + (low - 0xDC00)), behind)
          else some (charOfUnit high, next :: rest)
        | none => some (charOfUnit high, next :: rest)
      else some (charOfUnit high, next :: rest)
  | _ => none

/-- Reads a text behind its opening quote; `opening` is the text from that quote on. -/
def readChars (opening : List Char) : Nat → List Char → Except Error (List Char × List Char)
  | 0, _ => .error ⟨.unterminatedText, opening⟩
  | _ + 1, [] => .error ⟨.unterminatedText, opening⟩
  | fuel + 1, char :: rest =>
    if char = '\x22' then .ok ([], rest)
    else if char = '\\' then
      match rest with
      | [] => .error ⟨.unterminatedText, opening⟩
      | 'u' :: digits =>
        match readUnit digits with
        | none => .error ⟨.badUnitEscape, char :: rest⟩
        | some (char, rest) => do
          let (chars, rest) ← readChars opening fuel rest
          return (char :: chars, rest)
      | mark :: rest =>
        match escaped? mark with
        | none => .error ⟨.badEscape, char :: mark :: rest⟩
        | some char => do
          let (chars, rest) ← readChars opening fuel rest
          return (char :: chars, rest)
    else if char.toNat < 32 then .error ⟨.controlCharacter, char :: rest⟩
    else do
      let (chars, rest) ← readChars opening fuel rest
      return (char :: chars, rest)

/-- Reads a text behind its opening quote. -/
def readText (behindQuote : List Char) : Except Error (String × List Char) := do
  let (chars, rest) ← readChars ('\x22' :: behindQuote) (behindQuote.length + 1) behindQuote
  return (String.ofList chars, rest)

/-! ## Numbers -/

/-- A run of decimal digits, and the text behind it. -/
def digitSpan (text : List Char) : List Char × List Char :=
  (text.takeWhile Char.isDigit, text.dropWhile Char.isDigit)

/-- The whole part of a number: a zero, or digits that do not begin with one. -/
def wholePart : List Char → Option (List Char × List Char)
  | '0' :: rest => some (['0'], rest)
  | char :: rest => if char.isDigit then some (digitSpan (char :: rest)) else none
  | [] => none

/-- The fraction of a number, if there is one. -/
def fractionPart : List Char → Option (List Char) × List Char
  | '.' :: char :: rest =>
    if char.isDigit then
      let (digits, rest) := digitSpan (char :: rest)
      (some digits, rest)
    else (none, '.' :: char :: rest)
  | text => (none, text)

/-- The power of ten of a number, if there is one. -/
def powerPart : List Char → Option Int × List Char
  | [] => (none, [])
  | mark :: text =>
    if mark = 'e' ∨ mark = 'E' then
      let (negative, digits) := Integer.splitSign text
      match digitSpan digits with
      | ([], _) => (none, mark :: text)
      | (digits, rest) =>
        let magnitude : Int := Nat.ofDigitChars 10 digits 0
        (some (if negative then -magnitude else magnitude), rest)
    else (none, mark :: text)

/-- Reads a number behind its sign. -/
def readMagnitude (negative : Bool) (text : List Char) :
    Option (Except Problem Number × List Char) :=
  match wholePart text with
  | none => none
  | some (whole, rest) =>
    let (fraction, rest) := fractionPart rest
    let (power, rest) := powerPart rest
    if fraction.isNone && power.isNone then
      if Integer.digitLimit < whole.length then some (.error (.tooLong whole.length), rest)
      else
        let magnitude : Int := Nat.ofDigitChars 10 whole 0
        some (.ok (.whole (if negative then -magnitude else magnitude)), rest)
    else
      let fraction := fraction.getD []
      let digits := Nat.ofDigitChars 10 (whole ++ fraction) 0
      let exponent := power.getD 0 - (fraction.length : Int)
      some (.ok (.real (Decimal.toBinary64 ⟨negative, digits, exponent⟩)), rest)

/-- Reads a number. -/
def readNumber (text : List Char) : Option (Except Problem Number × List Char) :=
  match text with
  | '-' :: rest => readMagnitude true rest
  | text => readMagnitude false text

/-! ## Values -/

/-- The words of JSON, with their values. -/
def words : List (String × Value) :=
  [("null", .null), ("true", .ofBool true), ("false", .ofBool false), ("NaN", .number (.real .nan)),
   ("Infinity", .number (.real (.infinite false))), ("-Infinity", .number (.real (.infinite true)))]

/-- Reads a word. -/
def readWord (text : List Char) : Option (Value × List Char) :=
  (words.find? fun word => word.1.toList.isPrefixOf text).map fun word =>
    (word.2, text.drop word.1.length)

/-- Reads a word or a number. -/
def readAtom (text : List Char) : Except Error (Value × List Char) :=
  match readWord text with
  | some found => .ok found
  | none =>
    match readNumber text with
    | some (.ok found, rest) => .ok (.number found, rest)
    | some (.error problem, _) => .error ⟨problem, text⟩
    | none => .error ⟨.expectingValue, text⟩

mutual

/-- Reads a value. -/
def readValue : Nat → List Char → Except Error (Value × List Char)
  | 0, text => .error ⟨.expectingValue, text⟩
  | fuel + 1, text =>
    match text with
    | '\x22' :: rest => do
      let (chars, rest) ← readText rest
      return (.text chars, rest)
    | '[' :: rest =>
      match skipSpace rest with
      | ']' :: rest => .ok (.list [], rest)
      | rest => do
        let (items, rest) ← readItems fuel rest
        return (.list items, rest)
    | '\x7b' :: rest =>
      match skipSpace rest with
      | '\x7d' :: rest => .ok (.object [], rest)
      | rest => do
        let (pairs, rest) ← readPairs fuel rest
        return (.object (Fields.ofPairs pairs), rest)
    | text => readAtom text

/-- Reads the items of a list up to its closing bracket. -/
def readItems : Nat → List Char → Except Error (List Value × List Char)
  | 0, text => .error ⟨.expectingValue, text⟩
  | fuel + 1, text => do
    let (item, rest) ← readValue fuel text
    match skipSpace rest with
    | ']' :: rest => return ([item], rest)
    | ',' :: rest =>
      let (items, rest) ← readItems fuel (skipSpace rest)
      return (item :: items, rest)
    | rest => .error ⟨.expectingComma, rest⟩

/-- Reads the pairs of an object up to its closing brace. -/
def readPairs : Nat → List Char → Except Error (List (String × Value) × List Char)
  | 0, text => .error ⟨.expectingName, text⟩
  | fuel + 1, text => do
    match text with
    | '\x22' :: rest =>
      let (key, rest) ← readText rest
      match skipSpace rest with
      | ':' :: rest =>
        let (value, rest) ← readValue fuel (skipSpace rest)
        match skipSpace rest with
        | '\x7d' :: rest => return ([(key, value)], rest)
        | ',' :: rest =>
          let (pairs, rest) ← readPairs fuel (skipSpace rest)
          return ((key, value) :: pairs, rest)
        | rest => .error ⟨.expectingComma, rest⟩
      | rest => .error ⟨.expectingColon, rest⟩
    | text => .error ⟨.expectingName, text⟩

end

/-- Reads a JSON text. -/
def read (text : String) : Except Error Value := do
  let chars := text.toList
  if chars.head? = some '\ufeff' then throw ⟨.byteOrderMark, chars⟩
  let (value, rest) ← readValue (2 * chars.length + 2) (skipSpace chars)
  match skipSpace rest with
  | [] => return value
  | rest => throw ⟨.extraData, rest⟩

end CriticalCss.Json
