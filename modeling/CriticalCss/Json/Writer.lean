import CriticalCss.Value

/-!
# Writing JSON

A value is written on one line or indented, with or without characters beyond ASCII.  What JSON has
no notation for is refused, and the whole text with it.

An indentation is the one text whose length is a number that the caller gives, so there may be no
memory for it; how long it may be is a parameter.  That memory runs out for a text because of what
it holds is not modelled.
-/

namespace CriticalCss.Json

/-- How a JSON text is laid out. -/
structure Layout where
  /-- Whether characters beyond ASCII are written as escapes. -/
  ascii : Bool
  /-- What a line begins with for every level, when every item has a line of its own. -/
  indent : Option (List Char)
  deriving DecidableEq

/-- One line, in ASCII. -/
def Layout.asciiLine : Layout := ⟨true, none⟩

/-- Why a value has no JSON text. -/
inductive Unwritable where
  /-- Only the report on an indented text names the number. -/
  | notFinite (named : Option Binary64)
  | noNotation (kind : Kind)
  | tooLong
  | noIndent (kind : Kind)
  /-- No text has so many characters. -/
  | indentTooLarge
  /-- There is no memory for so many characters. -/
  | indentOutOfMemory
  deriving DecidableEq

/-- A description of the reason. -/
def Unwritable.message : Unwritable → String
  | notFinite none => "Out of range float values are not JSON compliant"
  | notFinite (some value) =>
    s!"Out of range float values are not JSON compliant: {String.ofList value.render}"
  | noNotation kind => s!"Object of type {kind.name} is not JSON serializable"
  | tooLong => Integer.unwritableMessage
  | noIndent kind => s!"can't multiply sequence by non-int of type '{kind.name}'"
  | indentTooLarge => "cannot fit 'int' into an index-sized integer"
  | indentOutOfMemory => ""

/-- Numbers of characters are below this bound in size. -/
def countBound : Int := 9223372036854775808

/-- Whether a number may be given for a number of characters. -/
def isCount (number : Int) : Bool := decide (-countBound ≤ number ∧ number < countBound)

/-- A number of spaces, of which a negative one counts as zero, if there is room for them. -/
def spaces (room : Nat) (count : Int) : Except Unwritable (List Char) :=
  if !isCount count then .error .indentTooLarge
  else if room < count.toNat then .error .indentOutOfMemory
  else .ok (List.replicate count.toNat ' ')

/-- The indentation that a value stands for: none, some text, or a number of spaces. -/
def indentOf (room : Nat) : Value → Except Unwritable (Option (List Char))
  | .null => .ok none
  | .text held => .ok (some held.toList)
  | .number (.whole count) => (spaces room count).map some
  | .number (.truth held) => .ok (some (if held then [' '] else []))
  | value => .error (.noIndent value.kind)

/-- A code unit of a text in four hexadecimal digits. -/
def unitEscape (unit : Nat) : List Char := '\\' :: 'u' :: Text.hexDigits 4 unit

/-- A character by its code units: two for a character beyond the basic plane. -/
def codeEscape (code : Nat) : List Char :=
  if code < 0x10000 then unitEscape code
  else unitEscape (0xD800 + (code - 0x10000) / 0x400) ++
    unitEscape (0xDC00 + (code - 0x10000) % 0x400)

/-- A character inside quotes. -/
def writeChar (ascii : Bool) (char : Char) : List Char :=
  if char = '\x22' then ['\\', '\x22']
  else if char = '\\' then ['\\', '\\']
  else if char = '\n' then ['\\', 'n']
  else if char = '\r' then ['\\', 'r']
  else if char = '\t' then ['\\', 't']
  else if char = '\x08' then ['\\', 'b']
  else if char = '\x0c' then ['\\', 'f']
  else if char.toNat < 32 ∨ (ascii ∧ 126 < char.toNat) then codeEscape char.toNat
  else [char]

/-- A text in quotes. -/
def writeText (ascii : Bool) (text : String) : List Char :=
  '\x22' :: text.toList.flatMap (writeChar ascii) ++ ['\x22']

/-- A number. -/
def writeNumber (layout : Layout) : Number → Except Unwritable (List Char)
  | .truth true => .ok ['t', 'r', 'u', 'e']
  | .truth false => .ok ['f', 'a', 'l', 's', 'e']
  | .whole value => if Integer.isTooLong value then .error .tooLong else .ok (Integer.render value)
  | .real (.finite value) => .ok value.render
  | .real value => .error (.notFinite (layout.indent.map fun _ => value))

/-- What stands before an item at a level: a line break and the indentation if every item has its
line. -/
def Layout.lineBreak (layout : Layout) (level : Nat) : List Char :=
  match layout.indent with
  | none => []
  | some step => '\n' :: (List.replicate level step).flatten

/-- What stands between two items at a level. -/
def Layout.separator (layout : Layout) (level : Nat) : List Char :=
  match layout.indent with
  | none => [',', ' ']
  | some _ => ',' :: layout.lineBreak level

mutual

/-- Writes a value at a level. -/
def writeValue (layout : Layout) (level : Nat) : Value → Except Unwritable (List Char)
  | .null => .ok ['n', 'u', 'l', 'l']
  | .number held => writeNumber layout held
  | .text held => .ok (writeText layout.ascii held)
  | .list [] => .ok ['[', ']']
  | .list (first :: rest) => do
    let head ← writeValue layout (level + 1) first
    let tail ← writeItems layout (level + 1) rest
    return '[' :: layout.lineBreak (level + 1) ++ head ++ tail ++ layout.lineBreak level ++ [']']
  | .object [] => .ok ['\x7b', '\x7d']
  | .object ((key, first) :: rest) => do
    let head ← writeValue layout (level + 1) first
    let tail ← writeFields layout (level + 1) rest
    return '\x7b' :: layout.lineBreak (level + 1) ++ writeText layout.ascii key ++ ':' :: ' ' ::
      head ++ tail ++ layout.lineBreak level ++ ['\x7d']
  | .foreign kind => .error (.noNotation (.foreign kind))
  | .entry _ => .error (.noNotation .entry)

/-- Writes the items after the first one. -/
def writeItems (layout : Layout) (level : Nat) : List Value → Except Unwritable (List Char)
  | [] => .ok []
  | item :: rest => do
    let head ← writeValue layout level item
    let tail ← writeItems layout level rest
    return layout.separator level ++ head ++ tail

/-- Writes the fields after the first one. -/
def writeFields (layout : Layout) (level : Nat) :
    List (String × Value) → Except Unwritable (List Char)
  | [] => .ok []
  | (key, value) :: rest => do
    let head ← writeValue layout level value
    let tail ← writeFields layout level rest
    return layout.separator level ++ writeText layout.ascii key ++ ':' :: ' ' :: head ++ tail

end

/-- The JSON text of a value. -/
def write (layout : Layout) (value : Value) : Except Unwritable String :=
  (writeValue layout 0 value).map String.ofList

end CriticalCss.Json
