import CriticalCss.Text.Blank

/-!
# Reducing selectors

Elements can be looked up by a selector only without the pseudo-elements that they are styled
through.  Reduction deletes those; a selector of which nothing else is left cannot be looked up at
all.
-/

namespace CriticalCss.Selector

/-- Pseudo selectors that depend on an element: the element itself is tested in their place. -/
def preservedNames : List (List Char) :=
  ["before", "after", "visited", "first-letter", "first-line"].map String.toList

/-- Whether a character may occur in the name of a pseudo selector. -/
def isNameChar (char : Char) : Bool :=
  char.isAlphanum || char == '-' || char == '_'

/-- Whether a character may occur in the name of a vendor's pseudo selector. -/
def isVendorChar (char : Char) : Bool := char.isLower || char == '-'

/-- The length of a preserved pseudo selector, with one or two colons, at the start of a text. -/
def preservedLength (text : List Char) : Nat :=
  ((preservedNames.flatMap fun name => [':' :: ':' :: name, ':' :: name]).find?
    (·.isPrefixOf text)).elim 0 List.length

/-- The length of any pseudo selector, even one without a name, at the start of a text. -/
def pseudoLength : List Char → Nat
  | ':' :: ':' :: rest => 2 + (rest.takeWhile isNameChar).length
  | ':' :: rest => 1 + (rest.takeWhile isNameChar).length
  | _ => 0

/-- The length of a vendor's pseudo selector at the start of a text. -/
def vendorLength : List Char → Nat
  | ':' :: ':' :: '-' :: rest => 3 + (rest.takeWhile isVendorChar).length
  | ':' :: '-' :: rest => 2 + (rest.takeWhile isVendorChar).length
  | _ => 0

/-- Deletes from a text, from left to right, what `matchLength` finds; `pending` characters still
belong to the last find. -/
def deleteFrom (matchLength : List Char → Nat) : (pending : Nat) → List Char → List Char
  | _, [] => []
  | pending + 1, _ :: rest => deleteFrom matchLength pending rest
  | 0, char :: rest =>
    match matchLength (char :: rest) with
    | 0 => char :: deleteFrom matchLength 0 rest
    | length + 1 => deleteFrom matchLength length rest

/-- Deletes from a text, from left to right, what `matchLength` finds. -/
def delete (matchLength : List Char → Nat) (text : List Char) : List Char :=
  deleteFrom matchLength 0 text

/-- The selector by which to look up the elements that a selector styles, or nothing if it consists
of pseudo selectors only. -/
def reduceChars (text : List Char) : Option (List Char) :=
  if text.contains ':' then
    let kept := delete preservedLength text
    if (delete pseudoLength kept).all Text.isBlank then none else some (delete vendorLength kept)
  else some text

/-- The selector by which to look up the elements that a selector styles, or nothing if it consists
of pseudo selectors only. -/
def reduce (selector : String) : Option String :=
  (reduceChars selector.toList).map String.ofList

end CriticalCss.Selector
