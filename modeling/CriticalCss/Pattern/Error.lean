import CriticalCss.Number.Integer
import CriticalCss.Text.Quoted

/-!
# Malformed patterns

Why a text is no pattern, and where in the text.
-/

namespace CriticalCss.Pattern

/-- What is wrong with a pattern. -/
inductive Problem where
  | escapeAtEnd
  | badEscape (escape : String)
  | incompleteEscape (escape : String)
  | octalOutOfRange (escape : String)
  | missingBrace
  | missingName (what : String)
  | unterminatedName (terminator : Char)
  | undefinedCharacter (name : String)
  | unterminatedSet
  | badRange (low high : String)
  | nothingToRepeat
  | multipleRepeat
  | countsReversed
  | countTooLarge
  | countTooLong (digits : Nat)
  | codeTooLarge
  | unexpectedEnd
  | badNameCharacter (name : String)
  | unknownName (name : String)
  | redefinedName (name : String) (group earlier : Nat)
  | openGroupReference
  | lookbehindReference
  | invalidReference (group : Nat)
  | badGroupNumber
  | unknownExtension (extension : String)
  | unterminatedComment
  | unterminatedGroup
  | tooManyBranches
  | misplacedFlags
  | unbalancedParenthesis
  | localeFlag
  | incompatibleFlags
  | unknownFlag
  | missingFlagsEnd
  | missingFlag
  | missingColon
  | alphabetTurnedOff
  | globalTurnedOn
  | globalTurnedOff
  | turnedOnAndOff
  | conflictingAlphabets
  | variableWidthBehind
  /-- Only some versions of the engine have this problem. -/
  | tooFarBehind
  | templateRepeat (operator : String)
  deriving DecidableEq

/-- A description of the problem. -/
def Problem.message : Problem → String
  | .escapeAtEnd => "bad escape (end of pattern)"
  | .badEscape escape => s!"bad escape {escape}"
  | .incompleteEscape escape => s!"incomplete escape {escape}"
  | .octalOutOfRange escape => s!"octal escape value {escape} outside of range 0-0o377"
  | .missingBrace => "missing \x7b"
  | .missingName what => s!"missing {what}"
  | .unterminatedName terminator => s!"missing {terminator}, unterminated name"
  | .undefinedCharacter name => s!"undefined character name {Text.quoted name}"
  | .unterminatedSet => "unterminated character set"
  | .badRange low high => s!"bad character range {low}-{high}"
  | .nothingToRepeat => "nothing to repeat"
  | .multipleRepeat => "multiple repeat"
  | .countsReversed => "min repeat greater than max repeat"
  | .countTooLarge => "the repetition number is too large"
  | .countTooLong digits => Integer.tooLongMessage digits
  | .codeTooLarge => "Python int too large to convert to C int"
  | .unexpectedEnd => "unexpected end of pattern"
  | .badNameCharacter name => s!"bad character in group name {Text.quoted name}"
  | .unknownName name => s!"unknown group name {Text.quoted name}"
  | .redefinedName name group earlier =>
    s!"redefinition of group name {Text.quoted name} as group {group}; was group {earlier}"
  | .openGroupReference => "cannot refer to an open group"
  | .lookbehindReference => "cannot refer to group defined in the same lookbehind subpattern"
  | .invalidReference group => s!"invalid group reference {group}"
  | .badGroupNumber => "bad group number"
  | .unknownExtension extension => s!"unknown extension ?{extension}"
  | .unterminatedComment => "missing ), unterminated comment"
  | .unterminatedGroup => "missing ), unterminated subpattern"
  | .tooManyBranches => "conditional backref with more than two branches"
  | .misplacedFlags => "global flags not at the start of the expression"
  | .unbalancedParenthesis => "unbalanced parenthesis"
  | .localeFlag => "bad inline flags: cannot use 'L' flag with a str pattern"
  | .incompatibleFlags => "bad inline flags: flags 'a', 'u' and 'L' are incompatible"
  | .unknownFlag => "unknown flag"
  | .missingFlagsEnd => "missing -, : or )"
  | .missingFlag => "missing flag"
  | .missingColon => "missing :"
  | .alphabetTurnedOff => "bad inline flags: cannot turn off flags 'a', 'u' and 'L'"
  | .globalTurnedOn => "bad inline flags: cannot turn on global flag"
  | .globalTurnedOff => "bad inline flags: cannot turn off global flag"
  | .turnedOnAndOff => "bad inline flags: flag turned on and off"
  | .conflictingAlphabets => "ASCII and UNICODE flags are incompatible"
  | .variableWidthBehind => "look-behind requires fixed-width pattern"
  | .tooFarBehind => "invalid SRE code"
  | .templateRepeat operator => s!"internal: unsupported template operator {operator}"

/-- A problem, and the position in the pattern where it was met, if it has one. -/
structure Error where
  problem : Problem
  position : Option Nat
  deriving DecidableEq

/-- The line of a position and the column in it, both counted from one. -/
def lineAndColumn (source : List Char) (position : Nat) : Nat × Nat :=
  let before := source.take position
  (before.count '\n' + 1, (before.reverse.takeWhile (· != '\n')).length + 1)

/-- A description of the error.  In a pattern of several lines it gives the line and column too. -/
def Error.message (source : String) (error : Error) : String :=
  match error.position with
  | none => error.problem.message
  | some position =>
    let plain := s!"{error.problem.message} at position {position}"
    if source.toList.contains '\n' then
      let (line, column) := lineAndColumn source.toList position
      s!"{plain} (line {line}, column {column})"
    else plain

end CriticalCss.Pattern
