import CriticalCss.Text.Ranges
import CriticalCss.Text.CharacterName.African
import CriticalCss.Text.CharacterName.Alias
import CriticalCss.Text.CharacterName.Alphanumeric
import CriticalCss.Text.CharacterName.Ancient
import CriticalCss.Text.CharacterName.Brahmic
import CriticalCss.Text.CharacterName.Canadian
import CriticalCss.Text.CharacterName.Cuneiform
import CriticalCss.Text.CharacterName.Emblems
import CriticalCss.Text.CharacterName.Forms
import CriticalCss.Text.CharacterName.Geometric
import CriticalCss.Text.CharacterName.Gestures
import CriticalCss.Text.CharacterName.Greek
import CriticalCss.Text.CharacterName.Hieroglyphs
import CriticalCss.Text.CharacterName.Historic
import CriticalCss.Text.CharacterName.Jamo
import CriticalCss.Text.CharacterName.Javanese
import CriticalCss.Text.CharacterName.Kana
import CriticalCss.Text.CharacterName.Latin
import CriticalCss.Text.CharacterName.Mathematical
import CriticalCss.Text.CharacterName.Mongolian
import CriticalCss.Text.CharacterName.Musical
import CriticalCss.Text.CharacterName.NorthIndic
import CriticalCss.Text.CharacterName.Operators
import CriticalCss.Text.CharacterName.Phonetic
import CriticalCss.Text.CharacterName.Pictographs
import CriticalCss.Text.CharacterName.Punctuation
import CriticalCss.Text.CharacterName.Semitic
import CriticalCss.Text.CharacterName.SouthIndic
import CriticalCss.Text.CharacterName.Southeast
import CriticalCss.Text.CharacterName.Supplements
import CriticalCss.Text.CharacterName.Tiles
import CriticalCss.Text.CharacterName.Vai
import CriticalCss.Text.CharacterName.Yi

/-!
# Names of characters

The names by which a pattern can ask for a character.  Most stand in tables; the names of ideographs
end with their code points, and those of Hangul syllables spell the sounds that they are made of.
Letters match in either case, except in the two kinds of names that are made up by rule.
-/

namespace CriticalCss.Text.CharacterName

/-- All names that stand in tables. -/
def runs : List NameRun :=
  latin ++ greek ++ semitic ++ northIndic ++ southIndic ++ southeast ++ jamo ++ canadian ++
    mongolian ++ phonetic ++ punctuation ++ mathematical ++ geometric ++ operators ++
    supplements ++ kana ++ yi ++ vai ++ javanese ++ forms ++ ancient ++ brahmic ++ cuneiform ++
    hieroglyphs ++ african ++ historic ++ musical ++ alphanumeric ++ gestures ++ tiles ++
    pictographs ++ emblems ++ aliases

/-- The value of an upper-case hexadecimal digit. -/
def hexValue? (char : Char) : Option Nat :=
  if char.isDigit then some (char.toNat - 48)
  else if 'A' ≤ char ∧ char ≤ 'F' then some (char.toNat - 55)
  else none

/-- The number with the given upper-case hexadecimal digits. -/
def hexNumber? (digits : List Char) : Option Nat :=
  (digits.mapM hexValue?).map fun values => values.foldl (fun number value => 16 * number + value) 0

/-- What a name goes on with behind a beginning. -/
def behind? (beginning : String) (name : List Char) : Option (List Char) :=
  if beginning.toList.isPrefixOf name then some (name.drop beginning.length) else none

/-! ## Ideographs -/

/-- The unified ideographs. -/
def ideographs : List (Nat × Nat) :=
  [(0x3400, 0x4DBF), (0x4E00, 0x9FFF), (0x20000, 0x2A6DF), (0x2A700, 0x2B738), (0x2B740, 0x2B81D),
   (0x2B820, 0x2CEA1), (0x2CEB0, 0x2EBE0), (0x30000, 0x3134A)]

/-- The unified ideograph of a name, which ends with four or five digits. -/
def ideograph? (name : List Char) : Option Nat := do
  let digits ← behind? "CJK UNIFIED IDEOGRAPH-" name
  let code ← hexNumber? digits
  if (digits.length = 4 ∨ digits.length = 5) ∧ within ideographs code then some code else none

/-- Beginnings of names that end with the code point, and the characters named so. -/
def numbered : List (String × List (Nat × Nat)) :=
  [("CJK COMPATIBILITY IDEOGRAPH-", [(0xF900, 0xFA6D), (0xFA70, 0xFAD9), (0x2F800, 0x2FA1D)]),
   ("KHITAN SMALL SCRIPT CHARACTER-", [(0x18B00, 0x18CD5)]),
   ("NUSHU CHARACTER-", [(0x1B170, 0x1B2FB)])]

/-- The character of a name that ends with its code point, in as many digits as needed but at least
four. -/
def numbered? (name : List Char) : Option Nat :=
  numbered.findSome? fun (beginning, codes) => do
    let digits ← behind? beginning name
    let code ← hexNumber? digits
    if digits.length = (if code < 0x10000 then 4 else 5) ∧ within codes code then some code else none

/-! ## Syllables -/

/-- The sounds that a syllable begins with. -/
def leads : List String :=
  ["G", "GG", "N", "D", "DD", "R", "M", "B", "BB", "S", "SS", "", "J", "JJ", "C", "K", "T", "P", "H"]

/-- The vowels. -/
def vowels : List String :=
  ["A", "AE", "YA", "YAE", "EO", "E", "YEO", "YE", "O", "WA", "WAE", "OE", "YO", "U", "WEO", "WE",
   "WI", "YU", "EU", "YI", "I"]

/-- The sounds that a syllable ends with. -/
def tails : List String :=
  ["", "G", "GG", "GS", "N", "NJ", "NH", "D", "L", "LG", "LM", "LB", "LS", "LT", "LP", "LH", "M",
   "B", "BS", "S", "SS", "NG", "J", "C", "K", "T", "P", "H"]

/-- The index of the longest sound that a text begins with, and the text behind it. -/
def takeSound (sounds : List String) (text : List Char) : Option (Nat × List Char) :=
  let found := sounds.zipIdx.filter fun sound => sound.1.toList.isPrefixOf text
  let longest := found.foldl (fun best sound =>
    match best with
    | some held => if held.1.length < sound.1.length then some sound else best
    | none => some sound) none
  longest.map fun sound => (sound.2, text.drop sound.1.length)

/-- The Hangul syllable of a name. -/
def syllable? (name : List Char) : Option Nat := do
  let sounds ← behind? "HANGUL SYLLABLE " name
  let (lead, rest) ← takeSound leads sounds
  let (vowel, rest) ← takeSound vowels rest
  let (tail, rest) ← takeSound tails rest
  if rest.isEmpty then some (0xAC00 + (lead * 21 + vowel) * 28 + tail) else none

/-- The code point of a name. -/
def codeOf? (name : String) : Option Nat :=
  let exact := name.toList
  let upper := exact.map Char.toUpper
  (ideograph? exact).or <| (syllable? exact).or <| (numbered? upper).or <|
    runs.findSome? (·.codeOf? upper)

end CriticalCss.Text.CharacterName
