import CriticalCss.Browser.Settings
import CriticalCss.CommandLine.Usage

/-!
# Arguments

What a command line says, word by word.  The first two operands are the address and the stylesheet
file; what is left over or missing at the end makes no sense.
-/

namespace CriticalCss.CommandLine

/-- What a command line says.  A flag that is not given has no value or a standard one; a value that
consists of nothing but the separator is an empty list. -/
structure Arguments where
  url : Value
  stylesheet : Value
  width : Value
  height : Value
  forceInclude : Value
  userAgent : Value
  renderWait : Value
  headers : Value
  timeout : Value
  blocksScripts : Bool
  headed : Bool
  debug : Bool
  jsonLogs : Bool

namespace Arguments

/-- What an empty command line says. -/
def standard : Arguments where
  url := .null
  stylesheet := .null
  width := .ofInt Browser.standardWidth
  height := .ofInt Browser.standardHeight
  forceInclude := .null
  userAgent := .null
  renderWait := .null
  headers := .null
  timeout := .null
  blocksScripts := true
  headed := false
  debug := false
  jsonLogs := false

end Arguments

/-- Why reading a command line ends early. -/
inductive Stop where
  | helpWanted
  | misused (misuse : Misuse)
  deriving DecidableEq

/-- A text as a value. -/
def textValue (text : String) : Value := if text = "--" then .list [] else .text text

/-- A text as a whole number. -/
def wholeValue (flag : Flag) (text : String) : Except Stop Value :=
  if text = "--" then .ok (.list [])
  else match Integer.read text.toList with
    | .ok value => .ok (.ofInt value)
    | .error _ => .error (.misused (.notWhole flag text))

/-- Takes account of a flag with a value. -/
def setValue (arguments : Arguments) (flag : Flag) (text : String) : Except Stop Arguments :=
  match flag with
  | .width => do return { arguments with width := ← wholeValue flag text }
  | .height => do return { arguments with height := ← wholeValue flag text }
  | .renderWait => do return { arguments with renderWait := ← wholeValue flag text }
  | .timeout => do return { arguments with timeout := ← wholeValue flag text }
  | .forceInclude => .ok { arguments with forceInclude := textValue text }
  | .userAgent => .ok { arguments with userAgent := textValue text }
  | .headers => .ok { arguments with headers := textValue text }
  | _ => .ok arguments

/-- Takes account of a flag without a value. -/
def setFlag (arguments : Arguments) (flag : Flag) : Except Stop Arguments :=
  match flag with
  | .help => .error .helpWanted
  | .noBlockScripts => .ok { arguments with blocksScripts := false }
  | .headed => .ok { arguments with headed := true }
  | .debug => .ok { arguments with debug := true }
  | .jsonLogs => .ok { arguments with jsonLogs := true }
  | _ => .ok arguments

/-- A command line that has been read in part: what it says so far, its operands, and words that
mean nothing. -/
structure Reading where
  arguments : Arguments
  operands : List Value
  leftover : List String

namespace Reading

/-- Nothing has been read. -/
def blank : Reading := ⟨.standard, [], []⟩

/-- The names of the operands. -/
def operandNames : List String := ["url", "ast_file"]

/-- Whether another operand is awaited. -/
def hasRoom (reading : Reading) : Bool := decide (reading.operands.length < operandNames.length)

/-- Takes an operand. -/
def take (reading : Reading) (operand : Value) : Reading :=
  { reading with operands := reading.operands ++ [operand] }

/-- Leaves a word over. -/
def leave (reading : Reading) (text : String) : Reading :=
  { reading with leftover := reading.leftover ++ [text] }

/-- What the word before has left open. -/
inductive Mode where
  | apart
  /-- An operand has just been taken; a separator behind it goes with it. -/
  | beside
  /-- A separator has been read that goes with the next operand. -/
  | parted
  | awaiting (flag : Flag)

/-- Reads one word. -/
def step (reading : Reading) (mode : Mode) (word : Word) : Except Stop (Reading × Mode) :=
  match mode, word with
  | .awaiting flag, .operand text => do
    let arguments ← setValue reading.arguments flag text
    return ({ reading with arguments := arguments }, .apart)
  | .awaiting flag, _ => .error (.misused (.valueExpected flag))
  | .parted, .operand text =>
    if reading.hasRoom then .ok (reading.take (.text text), .beside)
    else .ok ((reading.leave "--").leave text, .apart)
  | _, .operand text =>
    if reading.hasRoom then .ok (reading.take (textValue text), .beside)
    else .ok (reading.leave text, .apart)
  | .beside, .separator => .ok (reading, .apart)
  | _, .separator => .ok (reading, .parted)
  | _, .unknownFlag text => .ok (reading.leave text, .apart)
  | _, .flag flag (some value) =>
    if flag.takesValue then do
      let arguments ← setValue reading.arguments flag value
      return ({ reading with arguments := arguments }, .apart)
    else .error (.misused (.valueNotExpected flag value))
  | _, .flag flag none =>
    if flag.takesValue then .ok (reading, .awaiting flag)
    else do
      let arguments ← setFlag reading.arguments flag
      return ({ reading with arguments := arguments }, .apart)

/-- Reads words up to the end. -/
def walk (reading : Reading) (mode : Mode) : List Word → Except Stop Reading
  | [] =>
    match mode with
    | .awaiting flag => .error (.misused (.valueExpected flag))
    | .parted => .ok (reading.leave "--")
    | _ => .ok reading
  | word :: rest => do
    let (reading, mode) ← step reading mode word
    walk reading mode rest

/-- What has been read, if nothing is missing and nothing is left over. -/
def finish (reading : Reading) : Except Stop Arguments :=
  match reading.operands with
  | [url, stylesheet] =>
    if reading.leftover.isEmpty then
      .ok { reading.arguments with url := url, stylesheet := stylesheet }
    else .error (.misused (.unrecognized reading.leftover))
  | operands => .error (.misused (.missing (operandNames.drop operands.length)))

end Reading

/-- Reads a command line. -/
def readArguments (commandLine : List String) : Except Stop Arguments :=
  match readWords commandLine with
  | .error ambiguity => .error (.misused (.ambiguous ambiguity))
  | .ok words => do
    let reading ← Reading.blank.walk .apart words
    reading.finish

end CriticalCss.CommandLine
