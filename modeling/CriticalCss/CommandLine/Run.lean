import CriticalCss.CommandLine.Configuration
import CriticalCss.Diagnostic
import CriticalCss.Extraction
import CriticalCss.Log
import CriticalCss.Spinner

/-!
# Running the command line

A run extracts the critical rules and writes them to the standard output, all at once and only if
everything went well.  Whatever else there is to say goes to the standard error, and the exit status
tells how the run ended.
-/

namespace CriticalCss.CommandLine

open Browser (Deed)

/-- What a run finds when it begins. -/
structure Surroundings where
  environment : Environment
  files : FileTree
  world : Extraction.World
  /-- What the browser's machine has in store. -/
  state : Browser.State
  /-- Whether the standard error is a terminal. -/
  terminal : Bool
  /-- The name under which the command line itself reports. -/
  logger : String

/-- Something written to the standard error. -/
inductive Message where
  | logged (record : LogRecord)
  | written (text : String)

/-- What a run leads to. -/
structure Conclusion where
  status : Nat
  output : String
  log : Log
  messages : List Message
  steps : List Browser.Step
  spinner : List Spinner.Step

namespace Conclusion

/-- The end of a run that does not get beyond reading the command line. -/
def early (status : Nat) (output : String) (messages : List Message) : Conclusion :=
  ⟨status, output, .configure false false, messages, [], []⟩

/-- The text written to the standard error, at times given by a text. -/
def errorText (conclusion : Conclusion) (stamp : String) : String :=
  String.join (conclusion.messages.map fun
    | .logged record => conclusion.log.write stamp record
    | .written text => text)

end Conclusion

/-- What the spinner says. -/
def spinnerText (arguments : Arguments) : String :=
  s!"Extracting critical CSS for {arguments.url.plain}..."

/-- Extracts the rules that a command line asks for. -/
def extraction (surroundings : Surroundings) (arguments : Arguments)
    (settings : Extraction.Settings) : Deed (List Value) :=
  match arguments.url, arguments.stylesheet with
  | .text url, .text path =>
    Extraction.extractFile surroundings.world surroundings.files url path settings
  | _, stylesheet => .fail (.notAPath stylesheet.kind)

/-- Extracts the rules that a command line asks for, and gives their text. -/
def outcome (surroundings : Surroundings) (arguments : Arguments)
    (settings : Extraction.Settings) : Deed String := do
  let kept ← extraction surroundings arguments settings
  Activity.ofOutcome (Stylesheet.toLine (.list kept))

/-- The exit status of an outcome. -/
def statusOf : Except Fault String → Nat
  | .ok _ => 0
  | .error .interrupted => 130
  | .error _ => 1

/-- What is written to the standard output. -/
def outputOf : Except Fault String → String
  | .ok text => text
  | .error _ => ""

/-- What is said about an outcome in the end. -/
def farewell : Except Fault String → List Message
  | .ok _ => []
  | .error .interrupted => [.written "\nInterrupted.\n"]
  | .error fault => [.written ((Diagnostic.ofFault fault).text ++ "\n")]

/-- The event that begins a run. -/
def startRecord (logger : String) : LogRecord := ⟨.debug, logger, "foldline start"⟩

/-- Runs a command line that has been read.

Where debugging is wanted, a fault other than an interruption is followed by one more record of the
log, `Extraction failed`, with the traceback of the fault.  It is outside the model. -/
def runArguments (surroundings : Surroundings) (arguments : Arguments) : Conclusion :=
  let debug := wantsDebug arguments surroundings.environment
  let log := Log.configure arguments.jsonLogs debug
  let start := Message.logged (startRecord surroundings.logger)
  match configuration arguments surroundings.environment with
  | .error fault =>
    ⟨statusOf (.error fault), "", log, start :: farewell (.error fault), [], []⟩
  | .ok settings =>
    let transcript := outcome surroundings arguments settings surroundings.state
    let events := transcript.steps.filterMap Browser.Step.event?
    { status := statusOf transcript.outcome
      output := outputOf transcript.outcome
      log := log
      messages := start :: events.map (fun event => .logged event.record) ++
        farewell transcript.outcome
      steps := transcript.steps
      spinner := Spinner.ownSteps (!debug) surroundings.terminal (spinnerText arguments) }

/-- Runs a command line. -/
def run (surroundings : Surroundings) (commandLine : List String) : Conclusion :=
  match readArguments commandLine with
  | .error .helpWanted => .early 0 help []
  | .error (.misused misuse) => .early 2 "" [.written misuse.text]
  | .ok arguments => runArguments surroundings arguments

end CriticalCss.CommandLine
