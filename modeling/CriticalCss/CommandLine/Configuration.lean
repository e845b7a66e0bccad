import CriticalCss.CommandLine.Arguments
import CriticalCss.Extraction.Settings
import CriticalCss.Text.LetterCase

/-!
# Configuration

The settings of an extraction come from the command line; where it is silent, from the environment;
and where that is silent too, the standard ones hold.
-/

namespace CriticalCss.CommandLine

/-- The variables of an environment. -/
abbrev Environment := List (String × String)

/-- The value of a variable without blanks around it; one that is not set is empty. -/
def Environment.setting (environment : Environment) (name : String) : String :=
  Text.trim ((environment.lookup name).getD "")

/-- The value that a flag gives as JSON.  An empty text, or null, gives none. -/
def jsonValue (flag : Flag) (expected : Kind) (given : Value) : Except Fault (Option Value) :=
  match given with
  | .text text =>
    if text.isEmpty then .ok none
    else match Json.read text with
      | .ok .null => .ok none
      | .ok value =>
        if value.kind = expected then .ok (some value)
        else .error (.flagOfWrongKind flag.name expected value.kind)
      | .error ⟨.tooLong digits, _⟩ => .error (.tooManyDigits digits)
      | .error error => .error (.flagNotJson flag.name error.problem)
  | _ => .ok none

/-- The variable for what the browser says it is. -/
def userAgentVariable : String := "FOLDLINE_USER_AGENT"

/-- The variable for the time that the page is left to settle. -/
def renderWaitVariable : String := "FOLDLINE_RENDER_WAIT_MS"

/-- The variable for the time that opening the page may take. -/
def timeoutVariable : String := "FOLDLINE_TIMEOUT_MS"

/-- The variable that asks for the whole log. -/
def debugVariable : String := "FOLDLINE_DEBUG"

/-- A whole number from a variable. -/
def wholeSetting (environment : Environment) (name : String) (standard : Value) :
    Except Fault Value :=
  let text := environment.setting name
  if text.isEmpty then .ok standard
  else match Integer.read text.toList with
    | .ok value => .ok (.ofInt value)
    | .error _ => .error (.settingNotWhole name text)

/-- The value of a flag, or else of a variable. -/
def wholeOr (given : Value) (environment : Environment) (name : String) (standard : Value) :
    Except Fault Value :=
  match given with
  | .null => wholeSetting environment name standard
  | given => .ok given

/-- What the browser says it is: what the flag gives, or else the variable, or else the standard. -/
def userAgentOr (given : Value) (environment : Environment) : Value :=
  if given.isTruthy then given
  else
    let text := environment.setting userAgentVariable
    if text.isEmpty then .text Browser.standardUserAgent else .text text

/-- Makes sure that the width and the height are positive; the height counts only if the width is. -/
def checkViewport (width height : Value) : Except Fault Unit := do
  let notPositive := Fault.naming (.list [width, height]) (.viewportNotPositive width height)
  let widthNumber ← Options.comparable "<=" width
  if widthNumber.atMost (.whole 0) then throw notPositive
  let heightNumber ← Options.comparable "<=" height
  if heightNumber.atMost (.whole 0) then throw notPositive

/-- Headers with their values as texts. -/
def headerTexts (headers : Value) : Fields :=
  match headers with
  | .object fields => fields.map fun field => (field.1, .text field.2.plain)
  | _ => []

/-- The settings that a command line and an environment make.  The options of the classification are
checked at once. -/
def configuration (arguments : Arguments) (environment : Environment) :
    Except Fault Extraction.Settings := do
  let forceInclude ← jsonValue .forceInclude .list arguments.forceInclude
  let headers ← jsonValue .headers .object arguments.headers
  let renderWait ←
    wholeOr arguments.renderWait environment renderWaitVariable Options.standardDelay
  let timeout ←
    wholeOr arguments.timeout environment timeoutVariable (.ofInt Browser.standardTimeout)
  checkViewport arguments.width arguments.height
  let settings : Extraction.Settings := {
    width := arguments.width
    height := arguments.height
    forceInclude := forceInclude.getD (.list [])
    userAgent := userAgentOr arguments.userAgent environment
    renderWait := renderWait
    blockScripts := .ofBool arguments.blocksScripts
    extraHeaders := .object (headerTexts (headers.getD (.object [])))
    timeout := timeout
    headless := .ofBool !arguments.headed }
  let _ ← settings.options
  return settings

/-- Whether the log is to show everything. -/
def wantsDebug (arguments : Arguments) (environment : Environment) : Bool :=
  arguments.debug ||
    ["1", "true", "yes"].contains (Text.lowerAscii (environment.setting debugVariable))

end CriticalCss.CommandLine
