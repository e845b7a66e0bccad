import CriticalCss.Text.Ranges

/-!
# Blank characters

The characters that trimming removes: the space separators of Unicode, and the characters whose
bidirectional class is a paragraph separator, a segment separator or white space.
-/

namespace CriticalCss.Text

/-- The blank characters. -/
def blankRanges : List (Nat × Nat) :=
  [(0x9, 0xD), (0x1C, 0x20), (0x85, 0x85), (0xA0, 0xA0), (0x1680, 0x1680), (0x2000, 0x200A),
   (0x2028, 0x2029), (0x202F, 0x202F), (0x205F, 0x205F), (0x3000, 0x3000)]

/-- Whether a character is blank. -/
def isBlank (char : Char) : Bool := within blankRanges char.toNat

/-- Text without the characters of a class at its ends. -/
def trimEnds (isTrimmed : Char → Bool) (text : List Char) : List Char :=
  ((text.dropWhile isTrimmed).reverse.dropWhile isTrimmed).reverse

/-- A string without the blank characters at its ends. -/
def trim (text : String) : String := String.ofList (trimEnds isBlank text.toList)

end CriticalCss.Text
