import CriticalCss.Text.Digit

/-!
# Flags

The flags of the command line, and how the words of a command line are told apart: flags, with or
without an attached value, operands, and the separator behind which everything is an operand.  The
name of a flag may be cut short as long as it stays the only one.
-/

namespace CriticalCss.CommandLine

/-- The flags. -/
inductive Flag where
  | help
  | width
  | height
  | forceInclude
  | userAgent
  | renderWait
  | noBlockScripts
  | headers
  | timeout
  | headed
  | debug
  | jsonLogs
  deriving DecidableEq

/-- The spellings of the flags, in the order in which they are listed. -/
def spellings : List (String × Flag) :=
  [("-h", .help), ("--help", .help), ("--width", .width), ("--height", .height),
    ("--force-include", .forceInclude), ("--user-agent", .userAgent),
    ("--render-wait-ms", .renderWait), ("--no-block-js", .noBlockScripts), ("--headers", .headers),
    ("--timeout-ms", .timeout), ("--headed", .headed), ("--debug", .debug),
    ("--json-logs", .jsonLogs)]

namespace Flag

/-- The name of a flag in messages. -/
def name (flag : Flag) : String :=
  "/".intercalate ((spellings.filter (·.2 = flag)).map (·.1))

/-- Whether a flag is followed by a value. -/
def takesValue : Flag → Bool
  | help | noBlockScripts | headed | debug | jsonLogs => false
  | _ => true

end Flag

/-- A word of a command line. -/
inductive Word where
  | flag (flag : Flag) (attached : Option String)
  | unknownFlag (text : String)
  | operand (text : String)
  | separator
  deriving DecidableEq

/-- Whether a word that begins with a dash reads as a negative number. -/
def isNegativeNumber (text : String) : Bool :=
  match text.toList with
  | '-' :: rest =>
    let digits := if rest.getLast? = some '\n' then rest.dropLast else rest
    match digits.dropWhile Text.isDecimal with
    | [] => !digits.isEmpty
    | '.' :: places => !places.isEmpty && places.all Text.isDecimal
    | _ => false
  | _ => false

/-- Splits a word at its first equals sign. -/
def splitValue (text : String) : String × Option String :=
  let chars := text.toList
  match chars.dropWhile (· != '=') with
  | [] => (text, none)
  | _ :: value => (String.ofList (chars.takeWhile (· != '=')), some (String.ofList value))

/-- The flags that a word may stand for, with the attached value: those whose spelling it begins, or
the short one with a value directly behind it. -/
def candidates (text : String) : List (String × Flag × Option String) :=
  match text.toList with
  | '-' :: '-' :: _ =>
    let (start, attached) := splitValue text
    (spellings.filter fun spelling => start.toList.isPrefixOf spelling.1.toList).map
      fun spelling => (spelling.1, spelling.2, attached)
  | '-' :: 'h' :: value => [("-h", .help, some (String.ofList value))]
  | _ => []

/-- A word that may stand for several flags, with their spellings. -/
structure Ambiguity where
  text : String
  spellings : List String
  deriving DecidableEq

/-- A word that is not spelled like a flag: negative numbers and texts with spaces are operands, as
is whatever does not begin with a dash. -/
def plainWord (text : String) : Word :=
  if isNegativeNumber text || text.toList.contains ' ' then .operand text else .unknownFlag text

/-- A flag with an attached value.  The letter of the short flag may be repeated behind it. -/
def flagWord (spelling : String) (flag : Flag) (attached : Option String) : Word :=
  match attached with
  | none => .flag flag none
  | some value =>
    if spelling = "-h" then
      let rest := value.toList.dropWhile (· == 'h')
      if !value.isEmpty && rest.isEmpty then .flag flag none
      else .flag flag (some (String.ofList rest))
    else .flag flag (some value)

/-- What a word in front of the separator is. -/
def readWord (text : String) : Except Ambiguity Word :=
  if text.toList.head? ≠ some '-' ∨ text = "-" then .ok (.operand text)
  else match spellings.lookup text with
    | some flag => .ok (.flag flag none)
    | none =>
      let (start, attached) := splitValue text
      match attached, spellings.lookup start with
      | some value, some flag => .ok (flagWord start flag (some value))
      | _, _ =>
        match candidates text with
        | [] => .ok (plainWord text)
        | [(spelling, flag, attached)] => .ok (flagWord spelling flag attached)
        | several => .error ⟨text, several.map (·.1)⟩

/-- The words of a command line. -/
def readWords : List String → Except Ambiguity (List Word)
  | [] => .ok []
  | text :: rest =>
    if text = "--" then .ok (.separator :: rest.map .operand)
    else do
      let word ← readWord text
      let words ← readWords rest
      return word :: words

end CriticalCss.CommandLine
