import CriticalCss.Number.Places
import CriticalCss.Value.Shown

/-!
# Message templates

A template is a text with places for values.  A place begins with a percent sign and ends with a
letter that tells how its value is written; between them may stand a name, marks, a width and a
precision.  Values are put in one after another, or by name if they are the fields of an object.  A
template can only be filled if there is a fitting value for every place and a place for every value.
-/

namespace CriticalCss.Template

/-- A number in a place: it is given, or it is one of the values. -/
inductive Extent where
  | given (count : Nat)
  | asked

/-- A place for a value. -/
structure Place where
  name : Option String
  /-- The value stands at the left end of its width. -/
  left : Bool
  /-- A number fills its width with zeros. -/
  zeros : Bool
  /-- A number that is not negative has a sign, too. -/
  plus : Bool
  /-- A number that is not negative has a space where the sign would be. -/
  blank : Bool
  /-- A number shows its base, or keeps its point and zeros. -/
  explicit : Bool
  width : Option Extent
  precision : Option Extent
  conversion : Char

/-- A piece of a template. -/
inductive Piece where
  | char (char : Char)
  | place (place : Place)

/-! ## Reading templates -/

/-- A name up to the parenthesis that closes it; `depth` counts the open parentheses inside. -/
def readName : (depth : Nat) → List Char → Option (List Char × List Char)
  | _, [] => none
  | 0, ')' :: rest => some ([], rest)
  | depth, char :: rest =>
    let depth := if char = '(' then depth + 1 else if char = ')' then depth - 1 else depth
    (readName depth rest).map fun (name, rest) => (char :: name, rest)

/-- A width or a precision. -/
def readExtent (text : List Char) : Option Extent × List Char :=
  match text with
  | '*' :: rest => (some .asked, rest)
  | text =>
    match text.takeWhile Char.isDigit with
    | [] => (none, text)
    | digits => (some (.given (Nat.ofDigitChars 10 digits 0)), text.dropWhile Char.isDigit)

/-- A place behind its percent sign. -/
def readPlace (text : List Char) : Option (Place × List Char) := do
  let (name, text) ← match text with
    | '(' :: rest => (readName 0 rest).map fun (name, rest) => (some (String.ofList name), rest)
    | text => some (none, text)
  let isMark (char : Char) : Bool := ['-', '+', ' ', '#', '0'].contains char
  let marks := text.takeWhile isMark
  let (width, text) := readExtent (text.dropWhile isMark)
  let (precision, text) := match text with
    | '.' :: rest =>
      let (precision, rest) := readExtent rest
      (some (precision.getD (.given 0)), rest)
    | text => (none, text)
  let text := match text with
    | char :: rest => if ['h', 'l', 'L'].contains char then rest else char :: rest
    | [] => []
  match text with
  | [] => none
  | conversion :: rest =>
    let place := {
      name, width, precision, conversion
      left := marks.contains '-'
      zeros := marks.contains '0'
      plus := marks.contains '+'
      blank := marks.contains ' '
      explicit := marks.contains '#' }
    return (place, rest)

/-- The pieces of a template; `fuel` bounds their number. -/
def readPieces : (fuel : Nat) → List Char → Option (List Piece)
  | 0, _ | _, [] => some []
  | fuel + 1, '%' :: rest => do
    let (place, rest) ← readPlace rest
    return .place place :: (← readPieces fuel rest)
  | fuel + 1, char :: rest => (readPieces fuel rest).map (.char char :: ·)

/-! ## Writing values -/

/-- A written value: its sign, what stands before zeros that fill its width, and the rest. -/
structure Written where
  sign : List Char
  base : List Char
  body : List Char

/-- Fills the width of a place.  Zeros stand behind the sign, spaces before it. -/
def pad (place : Place) (width : Nat) (isNumber : Bool) (written : Written) : List Char :=
  let text := written.sign ++ written.base ++ written.body
  let missing := width - text.length
  if place.left then text ++ List.replicate missing ' '
  else if place.zeros && isNumber then
    written.sign ++ written.base ++ List.replicate missing '0' ++ written.body
  else List.replicate missing ' ' ++ text

/-- The sign of a number. -/
def signOf (place : Place) (negative : Bool) : List Char :=
  if negative then ['-'] else if place.plus then ['+'] else if place.blank then [' '] else []

/-- A whole number in a base, with at least so many digits. -/
def writeWhole (place : Place) (base : Nat) (least : Nat) (value : Int) : Written :=
  let digits := Nat.toDigits base value.natAbs
  let isUpper := place.conversion = 'X'
  let digits := if isUpper then digits.map Char.toUpper else digits
  { sign := signOf place (value < 0)
    base := if place.explicit && base != 10 then ['0', place.conversion] else []
    body := List.replicate (least - digits.length) '0' ++ digits }

/-- A double with so many places or digits. -/
def writeReal (place : Place) (precision : Nat) (value : Binary64) : Written :=
  let isUpper := place.conversion.isUpper
  let style := place.conversion.toLower
  let shape (text : List Char) := if isUpper then text.map Char.toUpper else text
  match value with
  | .nan => ⟨signOf place false, [], shape ['n', 'a', 'n']⟩
  | .infinite negative => ⟨signOf place negative, [], shape ['i', 'n', 'f']⟩
  | .finite value =>
    let text :=
      if style = 'e' then value.scientific place.explicit precision
      else if style = 'f' then value.fixed place.explicit precision
      else value.general place.explicit precision
    ⟨signOf place value.negative, [], shape text⟩

/-- A text in ASCII, other characters by their code points. -/
def asciiOnly (text : List Char) : List Char :=
  text.flatMap fun char => if char.toNat < 128 then [char] else Text.escapeCode char.toNat

/-- The whole number that a value is. -/
def whole? : Value → Option Int
  | .number (.whole value) => some value
  | .number (.truth value) => some (Number.ofTruth value)
  | _ => none

/-- A character by its code point or as a text of its own. -/
def character? (value : Value) : Option (List Char) :=
  match value with
  | .text text => if text.length = 1 then some text.toList else none
  | value =>
    match whole? value with
    | some (.ofNat code) => if code ≤ 0x10FFFF then some [Char.ofNat code] else none
    | _ => none

/-- A value as its place wants it, if it fits. -/
def write (place : Place) (width : Nat) (precision : Option Nat) (value : Value) :
    Option (List Char) :=
  let text (chars : List Char) :=
    some (pad place width false ⟨[], [], chars.take (precision.getD chars.length)⟩)
  let number (written : Written) := some (pad place width true written)
  match place.conversion with
  | 's' => text value.plain.toList
  | 'r' => text value.shown.toList
  | 'a' => text (asciiOnly value.shown.toList)
  | 'c' => (character? value).map fun chars => pad place width false ⟨[], [], chars⟩
  | 'd' | 'i' | 'u' =>
    match value with
    | .number held => do
      let whole ← held.truncate?
      if Integer.isTooLong whole then none
      else number (writeWhole place 10 (precision.getD 1) whole)
    | _ => none
  | 'o' => (whole? value).bind fun whole => number (writeWhole place 8 (precision.getD 1) whole)
  | 'x' | 'X' => (whole? value).bind fun whole => number (writeWhole place 16 (precision.getD 1) whole)
  | 'e' | 'E' | 'f' | 'F' | 'g' | 'G' =>
    match value with
    | .number held => held.toBinary64?.bind fun real =>
      number (writeReal place (precision.getD 6) real)
    | _ => none
  | _ => none

/-! ## Filling templates -/

/-- What a template is filled with: the values that are left, and the fields of an object. -/
structure Supply where
  values : List Value
  fields : Option Fields

/-- What is given for a template.  A single object with fields gives these by name. -/
def Supply.ofValues (values : List Value) : Supply :=
  match values with
  | [.object (field :: rest)] => ⟨values, some (field :: rest)⟩
  | values => ⟨values, none⟩

/-- The next value. -/
def Supply.next (supply : Supply) : Option (Value × Supply) :=
  match supply.values with
  | [] => none
  | value :: values => some (value, { supply with values })

/-- The supply for a place: the value of its name if it has one. -/
def Supply.at? (supply : Supply) (place : Place) : Option Supply :=
  match place.name with
  | none => some supply
  | some name => do
    let value ← Fields.get? (← supply.fields) name
    return { supply with values := [value] }

/-- A number of a place. -/
def extentOf (extent : Option Extent) (supply : Supply) : Option (Option Int × Supply) :=
  match extent with
  | none => some (none, supply)
  | some (.given count) => some (some count, supply)
  | some .asked => do
    let (value, supply) ← supply.next
    let count ← whole? value
    return (some count, supply)

/-- The text of a place.  With a negative width the value stands at the left end, and a negative
precision counts as zero. -/
def fillPlace (place : Place) (supply : Supply) : Option (List Char × Supply) := do
  let supply ← supply.at? place
  let (width, supply) ← extentOf place.width supply
  let (precision, supply) ← extentOf place.precision supply
  if place.conversion = '%' then return (['%'], supply)
  let place := { place with left := place.left || width.any (· < 0) }
  let (value, supply) ← supply.next
  let text ← write place (width.getD 0).natAbs (precision.map Int.toNat) value
  return (text, supply)

/-- The text of pieces.  Values that no place asks for are a mistake, unless they have names. -/
def fillPieces : List Piece → Supply → Option (List Char)
  | [], supply => if supply.values.isEmpty || supply.fields.isSome then some [] else none
  | .char char :: rest, supply => (fillPieces rest supply).map (char :: ·)
  | .place place :: rest, supply => do
    let (text, supply) ← fillPlace place supply
    return text ++ (← fillPieces rest supply)

/-- A template with values put into its places, if they fit.  Without any values a template is just
text. -/
def fill (template : String) (values : List Value) : Option String :=
  if values.isEmpty then some template
  else do
    let pieces ← readPieces (template.length + 1) template.toList
    return String.ofList (← fillPieces pieces (.ofValues values))

end CriticalCss.Template
