import CriticalCss.CommandLine.Run

/-!
# The program

Reads the command line, the environment and the stylesheet file, runs, and writes what comes of it.
No driver of a browser is at hand here, so a run gets as far as starting one.
-/

namespace CriticalCss

/-- The variables that a run looks at, as far as they are set. -/
def readEnvironment : IO CommandLine.Environment := do
  let names := [CommandLine.userAgentVariable, CommandLine.renderWaitVariable,
    CommandLine.timeoutVariable, CommandLine.debugVariable]
  names.filterMapM fun name => do
    let value ← IO.getEnv name
    return value.map fun text => (name, text)

/-- The file at a path, as a file tree. -/
def readTree (path : String) : IO FileTree := do
  let filePath := FilePath.ofText path
  try
    let bytes ← IO.FS.readBinFile path
    return .leadingTo filePath (.file (bytes.toList.map UInt8.toNat))
  catch failure =>
    match failure with
    | .inappropriateType .. => return .leadingTo filePath .directory
    | _ => return ⟨[]⟩

/-- The file tree that a command line needs. -/
def readFiles (commandLine : List String) : IO FileTree :=
  match CommandLine.readArguments commandLine with
  | .ok arguments => readTree ((arguments.stylesheet.text?).getD "")
  | .error _ => return ⟨[]⟩

/-- A machine without a driver. -/
def bareMachine : Browser.Machine where
  driverFault := some "No browser driver is available."
  contextFault := none
  pageFault := none
  unclosable := []

/-- A world without a browser. -/
def bareWorld : Extraction.World where
  machine := bareMachine
  course := ⟨[], [], .arrived none⟩
  content := ⟨fun _ => none, fun _ => .ok []⟩

end CriticalCss

/-- Runs a command line. -/
def main (commandLine : List String) : IO UInt32 := do
  let environment ← CriticalCss.readEnvironment
  let files ← CriticalCss.readFiles commandLine
  let conclusion := CriticalCss.CommandLine.run
    { environment := environment
      files := files
      world := CriticalCss.bareWorld
      state := .initial [] []
      terminal := false
      logger := "foldline.cli" } commandLine
  IO.print conclusion.output
  IO.eprint (conclusion.errorText (toString (← IO.monoMsNow)))
  return conclusion.status.toUInt32
