import CriticalCss.Pattern.Tree
import CriticalCss.Text.Blank
import CriticalCss.Text.Digit
import CriticalCss.Text.LetterCase
import CriticalCss.Text.Word

/-!
# Single characters of a pattern

When case does not count, characters are compared by their lower case, and letters that share an
upper case are the same letter.  A set takes case into account only if it has a member with two
cases.
-/

namespace CriticalCss.Pattern

/-- Whether a character belongs to a class; in the ASCII alphabet only ASCII characters do. -/
def Category.contains (ascii : Bool) (code : Nat) : Category → Bool
  | digit =>
    if ascii then decide (48 ≤ code ∧ code ≤ 57) else Text.isDecimal (Char.ofNat code)
  | space =>
    if ascii then decide (code = 32 ∨ (9 ≤ code ∧ code ≤ 13)) else Text.isBlank (Char.ofNat code)
  | word =>
    if ascii then decide (code < 128) && Text.isWord (Char.ofNat code)
    else Text.isWord (Char.ofNat code)

namespace Flags

/-- The lower case of a code point in the alphabet in force. -/
def lower (flags : Flags) (code : Nat) : Nat :=
  if flags.ascii then Text.lowerAsciiCode code else Text.lowerCode code

/-- Whether a code point has two cases in the alphabet in force. -/
def isCased (flags : Flags) (code : Nat) : Bool :=
  if flags.ascii then Text.hasAsciiCase code else Text.hasCase code

/-- The lower-case code points that are the same letter as a lower-case code point. -/
def sameLetters (flags : Flags) (lower : Nat) : List Nat :=
  if flags.ascii then [lower] else Text.withTwins lower

/-- Whether a character matches a character of the pattern. -/
def sameChar (flags : Flags) (wanted code : Nat) : Bool :=
  if flags.ignoreCase && flags.isCased wanted then
    (flags.sameLetters (flags.lower wanted)).contains (flags.lower code)
  else wanted == code

end Flags

/-- The code points whose lower case is the given one. -/
def upperForms (runs : List Text.CaseRun) (lower : Nat) : List Nat :=
  runs.filterMap fun run =>
    let code := ((lower : Int) - run.shift).toNat
    if run.contains code then some code else none

/-- The code points that are the same letter as a lower-case one, in either case. -/
def Flags.letterForms (flags : Flags) (lower : Nat) : List Nat :=
  (flags.sameLetters lower).flatMap fun lower =>
    if flags.ascii then
      if 97 ≤ lower ∧ lower ≤ 122 then [lower, lower - 32] else [lower]
    else lower :: upperForms Text.lowerRuns lower

/-- Whether a run of cased characters meets a range. -/
def runMeets (low high : Nat) (run : Text.CaseRun) : Bool :=
  let skipped := (low - run.first + run.step - 1) / run.step
  decide (run.first + skipped * run.step ≤ min high run.last)

/-- Whether a member of a set has two cases.  Beyond the basic plane every member counts as cased. -/
def SetItem.isCased (flags : Flags) : SetItem → Bool
  | .code member => flags.isCased member || decide (0x10000 ≤ member)
  | .range low high =>
    decide (0x10000 ≤ high) ||
      (if flags.ascii then
        decide ((low ≤ 90 ∧ 65 ≤ high) ∨ (low ≤ 122 ∧ 97 ≤ high))
      else (Text.lowerRuns ++ Text.upperRuns).any (runMeets low high))
  | .category _ _ => false

/-- Whether a member of a set covers a letter in one case and perhaps not in the other. -/
def SetItem.changesCase (flags : Flags) : SetItem → Bool
  | .code member => flags.isCased member
  | item => item.isCased flags

/-- Whether a member of a set covers a character as it is. -/
def SetItem.covers (flags : Flags) (char : Nat) : SetItem → Bool
  | .code member => member == char
  | .range low high => decide (low ≤ char ∧ char ≤ high)
  | .category members outside => members.contains flags.ascii char != outside

/-- Whether a member of a set covers a character when case does not count; the character is given
in lower case. -/
def SetItem.coversLower (flags : Flags) (char : Nat) : SetItem → Bool
  | .code member =>
    if member < 0x10000 then (flags.sameLetters (flags.lower member)).contains char
    else member == char
  | .range low high =>
    let between (code : Nat) := decide (low ≤ code ∧ code ≤ high)
    (flags.letterForms char).any (fun form => between form && decide (form < 0x10000)) ||
      decide (0x10000 ≤ high) && (between char || between (Text.upperCode char))
  | .category members outside => members.contains flags.ascii char != outside

/-- Whether a set matches a character. -/
def setContains (flags : Flags) (negated : Bool) (items : List SetItem) (char : Nat) : Bool :=
  let covered :=
    if flags.ignoreCase && items.any (SetItem.isCased flags) then
      items.any (SetItem.coversLower flags (flags.lower char))
    else items.any (SetItem.covers flags char)
  covered != negated

end CriticalCss.Pattern
