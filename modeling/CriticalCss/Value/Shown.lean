import CriticalCss.Value

/-!
# Values in messages

Inside a message a value is shown on one line: texts between quotes, lists in brackets, objects in
braces.  A text that is the whole of a message stands without quotes.  A value with a number of too
many digits cannot be shown; whoever shows one that a caller may have computed has to look first.
-/

namespace CriticalCss.Value

/-- Texts with a comma between them. -/
def commaSeparated (texts : List String) : String := String.intercalate ", " texts

/-- A foreign thing. -/
def shownForeign : Foreign → String
  | .emptySet => "set()"
  | .byteString => "b'x'"
  | .imaginaryUnit => "1j"
  | .bareObject => "<object object>"

/-- An entry for selectors that are always kept. -/
def shownEntry (entry : ForceInclude) : String :=
  let kind := if entry.isLiteral then "<MatchKind.LITERAL: 'literal'>" else "<MatchKind.REGEX: 'regex'>"
  s!"ForceIncludeEntry(kind={kind}, value={Text.quoted entry.value})"

mutual

/-- A value inside a message. -/
def shown : Value → String
  | null => "None"
  | number held => held.render
  | text held => Text.quoted held
  | list items => "[" ++ commaSeparated (shownItems items) ++ "]"
  | object fields => "\x7b" ++ commaSeparated (shownFields fields) ++ "\x7d"
  | foreign kind => shownForeign kind
  | entry held => shownEntry held

/-- The items of a list inside a message. -/
def shownItems : List Value → List String
  | [] => []
  | item :: rest => item.shown :: shownItems rest

/-- The fields of an object inside a message. -/
def shownFields : List (String × Value) → List String
  | [] => []
  | (key, value) :: rest => (Text.quoted key ++ ": " ++ value.shown) :: shownFields rest

end

mutual

/-- Whether there is a number in a value that has too many digits to be written. -/
def hasLongNumber : Value → Bool
  | number held => held.isTooLong
  | list items => anyLongNumber items
  | object fields => anyLongField fields
  | _ => false

/-- Whether one of the items has such a number. -/
def anyLongNumber : List Value → Bool
  | [] => false
  | item :: rest => item.hasLongNumber || anyLongNumber rest

/-- Whether the value of one of the fields has such a number. -/
def anyLongField : List (String × Value) → Bool
  | [] => false
  | (_, value) :: rest => value.hasLongNumber || anyLongField rest

end

/-- A value as the whole of a message. -/
def plain : Value → String
  | text held => held
  | value => value.shown

/-- Several values in parentheses; a single one is followed by a comma. -/
def shownTuple (values : List Value) : String :=
  match values with
  | [value] => "(" ++ value.shown ++ ",)"
  | values => "(" ++ commaSeparated (shownItems values) ++ ")"

end CriticalCss.Value
