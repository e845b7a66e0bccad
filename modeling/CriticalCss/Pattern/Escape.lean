import CriticalCss.Pattern.Cursor

/-!
# Escapes

What a backslash stands for, outside and inside bracketed sets.
-/

namespace CriticalCss.Pattern

/-- Whether a character is an ASCII digit below the base. -/
def isDigitBelow (base : Nat) (char : Char) : Bool :=
  decide (48 ≤ char.toNat ∧ char.toNat < 48 + base)

/-- Whether a character is a hexadecimal digit. -/
def isHexDigit (char : Char) : Bool :=
  char.isDigit || ('a' ≤ char && char ≤ 'f') || ('A' ≤ char && char ≤ 'F')

/-- The value of a hexadecimal digit. -/
def hexValue (char : Char) : Nat :=
  if char.isDigit then char.toNat - 48
  else if 'a' ≤ char then char.toNat - 87
  else char.toNat - 55

/-- The value of digits in a base. -/
def valueInBase (base : Nat) (digits : List Char) : Nat :=
  digits.foldl (fun value digit => base * value + hexValue digit) 0

/-- Characters that stand for a control character after a backslash. -/
def controlEscape? : Char → Option Nat
  | 'a' => some 7
  | 'b' => some 8
  | 'f' => some 12
  | 'n' => some 10
  | 'r' => some 13
  | 't' => some 9
  | 'v' => some 11
  | '\\' => some 92
  | _ => none

/-- Characters that stand for a class of characters after a backslash. -/
def categoryEscape? : Char → Option SetItem
  | 'd' => some (.category .digit false)
  | 'D' => some (.category .digit true)
  | 's' => some (.category .space false)
  | 'S' => some (.category .space true)
  | 'w' => some (.category .word false)
  | 'W' => some (.category .word true)
  | _ => none

/-- Characters that stand for a place after a backslash. -/
def anchorEscape? : Char → Option Anchor
  | 'A' => some .textStart
  | 'Z' => some .textEnd
  | 'b' => some .wordEdge
  | 'B' => some .wordInside
  | _ => none

/-- The text of an escape. -/
def escapeText (char : Char) (digits : List Char) : String :=
  String.ofList ('\\' :: char :: digits)

namespace Reader

/-- Code points from this bound on are not even looked up. -/
def codeLimit : Nat := 2147483648

/-- Reads exactly so many hexadecimal digits of an escape. -/
def hexEscape (char : Char) (count : Nat) : Reader Nat := do
  let digits ← takeWhile isHexDigit count
  if digits.length = count then
    let code := valueInBase 16 digits
    if code ≤ 0x10FFFF then return code
    else if codeLimit ≤ code then throw ⟨.codeTooLarge, none⟩
    else fail (.badEscape (escapeText char digits)) (count + 2)
  else fail (.incompleteEscape (escapeText char digits)) (digits.length + 2)

/-- Reads the name of a character in braces. -/
def nameEscape : Reader Nat := do
  if ← skip '\x7b' then
    let characterName ← name '\x7d' "character name"
    match Text.CharacterName.codeOf? characterName with
    | some code => return code
    | none => fail (.undefinedCharacter characterName) (characterName.length + 4)
  else fail .missingBrace 0

/-- The escapes that stand for one character both inside and outside sets: by code point or by
name. -/
def codeEscape? (char : Char) : Option (Reader Nat) :=
  match char with
  | 'x' => some (hexEscape 'x' 2)
  | 'u' => some (hexEscape 'u' 4)
  | 'U' => some (hexEscape 'U' 8)
  | 'N' => some nameEscape
  | _ => none

/-- An escaped character that has no meaning of its own stands for itself, unless it is a letter. -/
def selfEscape (char : Char) : Reader Nat :=
  if char.isAlpha then fail (.badEscape (escapeText char [])) 2 else return char.toNat

/-- An octal escape, read up to its end. -/
def octalEscape (first : Char) (digits : List Char) : Reader Nat :=
  let code := valueInBase 8 (first :: digits)
  if code ≤ 0o377 then return code
  else fail (.octalOutOfRange (escapeText first digits)) (digits.length + 2)

/-- The member of a set that an escape stands for. -/
def setEscape (char : Char) : Reader SetItem := do
  match controlEscape? char, categoryEscape? char, codeEscape? char with
  | some code, _, _ => return .code code
  | none, some item, _ => return item
  | none, none, some read => return .code (← read)
  | none, none, none =>
    if isDigitBelow 8 char then
      let digits ← takeWhile (isDigitBelow 8) 2
      return .code (← octalEscape char digits)
    else if char.isDigit then fail (.badEscape (escapeText char [])) 2
    else return .code (← selfEscape char)

/-- A reference to a group by number. -/
def referenceEscape (digits : List Char) : Reader Tree := do
  let cursor ← get
  let group := valueInBase 10 digits
  if group ≤ cursor.groups.length then
    if isClosed cursor group then
      checkLookbehind group
      return .reference group (widthOf cursor group)
    else fail .openGroupReference (digits.length + 1)
  else fail (.invalidReference group) digits.length

/-- Three octal digits are a character, one or two digits a reference to a group. -/
def numberEscape (first : Char) : Reader Tree := do
  let second ← takeWhile Char.isDigit 1
  match second with
  | [] => referenceEscape [first]
  | second :: _ =>
    if isDigitBelow 8 first && isDigitBelow 8 second then
      match ← takeWhile (isDigitBelow 8) 1 with
      | third :: _ => return .char (← octalEscape first [second, third])
      | [] => referenceEscape [first, second]
    else referenceEscape [first, second]

/-- The part of a pattern that an escape outside sets stands for. -/
def treeEscape (char : Char) : Reader Tree := do
  match anchorEscape? char, categoryEscape? char, controlEscape? char, codeEscape? char with
  | some anchor, _, _, _ => return .anchor anchor
  | none, some item, _, _ => return .set false [item]
  | none, none, some code, _ => return .char code
  | none, none, none, some read => return .char (← read)
  | none, none, none, none =>
    if char = '0' then
      let digits ← takeWhile (isDigitBelow 8) 2
      return .char (valueInBase 8 digits)
    else if char.isDigit then numberEscape char
    else return .char (← selfEscape char)

end Reader

end CriticalCss.Pattern
