import CriticalCss.Proofs.CommandLine.Faults
import CriticalCss.Proofs.Extraction.Kept

/-!
# How a run ends

A run of the command line goes well, fails or is interrupted, and its status tells which.  What it
writes to the standard output is the text of what has been kept, all of it or nothing, and this text
reads back.  Every fault ends in a status of its own and in a text about what happened.
-/

namespace CriticalCss.CommandLine

open Browser Extraction

/-- The list is kept by the extraction that a command line asks for: from the file that it names, with
the settings that its flags and the environment make. -/
def Keeps (surroundings : Surroundings) (arguments : Arguments) (kept : List Value) : Prop :=
  ∃ url path settings, arguments.url = .text url ∧ arguments.stylesheet = .text path ∧
    configuration arguments surroundings.environment = .ok settings ∧
      (extractFile surroundings.world surroundings.files url path settings
        surroundings.state).outcome = .ok kept

/-- The fault is one of the settings, of the extraction, or of the text of what is kept. -/
inductive MeetsFault (surroundings : Surroundings) (arguments : Arguments) (fault : Fault) :
    Prop where
  | configuration :
      configuration arguments surroundings.environment = .error fault →
      MeetsFault surroundings arguments fault
  | extraction {settings : Extraction.Settings} :
      configuration arguments surroundings.environment = .ok settings →
      (extraction surroundings arguments settings surroundings.state).outcome = .error fault →
      MeetsFault surroundings arguments fault
  | text {kept : List Value} : Keeps surroundings arguments kept →
      Stylesheet.toLine (.list kept) = .error fault →
      MeetsFault surroundings arguments fault

/-- A run ends as it should. -/
structure KeepsContract (surroundings : Surroundings) (arguments : Arguments)
    (conclusion : Conclusion) : Prop where
  /-- There are three ways to end. -/
  status : conclusion.status = 0 ∨ conclusion.status = 1 ∨ conclusion.status = 130
  /-- One of them is for interruptions. -/
  interrupted : conclusion.status = 130 ↔
    WasInterrupted surroundings.world.course conclusion.steps
  /-- Nothing is written unless all goes well. -/
  silent : conclusion.status ≠ 0 → conclusion.output = ""
  /-- All goes well exactly if the output is the text of what is kept. -/
  result : conclusion.status = 0 ↔ ∃ kept, Keeps surroundings arguments kept ∧
    Stylesheet.toLine (.list kept) = .ok conclusion.output
  /-- The output is read back as what is kept. -/
  readable : conclusion.status = 0 → ∀ kept, Keeps surroundings arguments kept →
    Json.read conclusion.output = .ok (.list kept)
  /-- Every fault but an interruption is one that the program meets by itself, and the last thing
  that is said is what has happened.  The traceback that follows in the log when debugging is wanted
  is not counted. -/
  failure : ∀ fault, MeetsFault surroundings arguments fault → fault ≠ .interrupted →
    fault.IsOwn ∧ conclusion.status = 1 ∧ conclusion.output = "" ∧
      ∃ earlier detail hint, detail ≠ "" ∧
        conclusion.messages = earlier ++ [.written ("Error: " ++ detail ++ hint ++ "\n")]

section

variable {surroundings : Surroundings} {arguments : Arguments} {settings : Extraction.Settings}

/-- What is kept by a run is kept by an extraction from the file that its command line names. -/
theorem keeps_of_extraction
    (configured : configuration arguments surroundings.environment = .ok settings)
    {kept : List Value}
    (extracted : (extraction surroundings arguments settings surroundings.state).outcome =
      .ok kept) : Keeps surroundings arguments kept := by
  rcases extraction_eq arguments settings with ⟨url, path, urlIs, pathIs, extracts⟩ | fails
  · rw [extracts] at extracted
    exact ⟨url, path, settings, urlIs, pathIs, configured, extracted⟩
  · rw [fails] at extracted
    cases extracted

theorem extraction_of_keeps {kept : List Value} (keeps : Keeps surroundings arguments kept) :
    ∃ settings, configuration arguments surroundings.environment = .ok settings ∧
      (extraction surroundings arguments settings surroundings.state).outcome = .ok kept := by
  obtain ⟨url, path, settings, urlIs, pathIs, configured, extracted⟩ := keeps
  refine ⟨settings, configured, ?_⟩
  rw [extraction, urlIs, pathIs]
  exact extracted

/-- The outcome of a run: a fault of its settings, of its extraction or of writing, or a text. -/
def ending (surroundings : Surroundings) (arguments : Arguments) : Except Fault String := do
  let settings ← configuration arguments surroundings.environment
  let kept ← (extraction surroundings arguments settings surroundings.state).outcome
  Stylesheet.toLine (.list kept)

theorem ending_of_ok
    (configured : configuration arguments surroundings.environment = .ok settings) :
    ending surroundings arguments =
      ((extraction surroundings arguments settings surroundings.state).outcome >>= fun kept =>
        Stylesheet.toLine (.list kept)) := by
  rw [ending, configured]
  rfl

theorem ending_of_meetsFault {fault : Fault} (meets : MeetsFault surroundings arguments fault) :
    ending surroundings arguments = .error fault := by
  cases meets with
  | configuration failed =>
      rw [ending, failed]
      rfl
  | extraction configured failed =>
      rw [ending_of_ok configured, failed]
      rfl
  | text keeps failed =>
      obtain ⟨settings, configured, extracted⟩ := extraction_of_keeps keeps
      rw [ending_of_ok configured, extracted]
      exact failed

theorem ending_eq_ok_iff {text : String} :
    ending surroundings arguments = .ok text ↔ ∃ kept, Keeps surroundings arguments kept ∧
      Stylesheet.toLine (.list kept) = .ok text := by
  constructor
  · intro ended
    obtain ⟨settings, configured, ended⟩ := exists_ok_of_bind ended
    obtain ⟨kept, extracted, written⟩ := exists_ok_of_bind ended
    exact ⟨kept, keeps_of_extraction configured extracted, written⟩
  · rintro ⟨kept, keeps, written⟩
    obtain ⟨settings, configured, extracted⟩ := extraction_of_keeps keeps
    rw [ending_of_ok configured, extracted]
    exact written

/-- A run ends with its own faults only, unless it is interrupted. -/
theorem ending_isOwn (fails : surroundings.world.content.FailsByCalls) :
    FailsWith (fun fault => fault.IsOwn ∨ fault = .interrupted)
      (ending surroundings arguments) := by
  have configures := (configuration_isOwn arguments surroundings.environment).mono
    fun fault own => (Or.inl own : fault.IsOwn ∨ fault = .interrupted)
  apply configures.bind
  intro settings
  apply FailsWith.bind
  · rcases extraction_eq arguments settings with ⟨url, path, -, -, extracts⟩ | stops
    · rw [extracts]
      exact extractFile_isOwn fails surroundings.files url path settings surroundings.state
    · rw [stops]
      exact .error (.inl rfl)
  · intro kept
    exact (Stylesheet.toJson_isOwn _ _ _).mono fun _ => .inl

/-- An extraction ends with an interruption exactly if its address was called for and interrupted. -/
theorem extraction_interrupted_iff (fails : surroundings.world.content.FailsByCalls) (state : State) :
    (extraction surroundings arguments settings state).outcome = .error .interrupted ↔
      WasInterrupted surroundings.world.course
        (extraction surroundings arguments settings state).steps := by
  rcases extraction_eq arguments settings with ⟨url, path, -, -, extracts⟩ | stops
  · rw [extracts]
    exact extractFile_interrupted_iff fails surroundings.files url path settings
  · rw [stops]
    exact interrupted_iff_of_idle rfl _

/-- A run ends with an interruption exactly if its address was called for and interrupted. -/
theorem ending_interrupted_iff (fails : surroundings.world.content.FailsByCalls) :
    ending surroundings arguments = .error .interrupted ↔
      WasInterrupted surroundings.world.course (runArguments surroundings arguments).steps := by
  cases configured : configuration arguments surroundings.environment with
  | error fault =>
      rw [runArguments_of_error configured, ending_of_meetsFault (.configuration configured)]
      exact interrupted_iff_of_idle (configuration_isOwn _ _ _ configured) _
  | ok settings =>
      have steps : (runArguments surroundings arguments).steps =
          (extraction surroundings arguments settings surroundings.state).steps := by
        rw [runArguments_of_ok configured, outcome_apply]
      rw [steps, ending_of_ok configured, ← extraction_interrupted_iff fails]
      cases ended : (extraction surroundings arguments settings surroundings.state).outcome with
      | error fault =>
          constructor
          · rintro ⟨⟩
            rfl
          · rintro ⟨⟩
            rfl
      | ok kept =>
          have own := Stylesheet.toJson_isOwn 0 (.list kept) .null
          constructor
          · intro interrupted
            cases own _ interrupted
          · rintro ⟨⟩

/-- A run reports on its ending. -/
theorem runArguments_ending (surroundings : Surroundings) (arguments : Arguments) :
    (runArguments surroundings arguments).status = statusOf (ending surroundings arguments) ∧
      (runArguments surroundings arguments).output = outputOf (ending surroundings arguments) ∧
      ∃ earlier, (runArguments surroundings arguments).messages =
        earlier ++ farewell (ending surroundings arguments) := by
  cases configured : configuration arguments surroundings.environment with
  | error fault =>
      rw [runArguments_of_error configured, ending_of_meetsFault (.configuration configured)]
      exact ⟨rfl, rfl, [_], rfl⟩
  | ok settings =>
      rw [runArguments_of_ok configured, ending_of_ok configured, outcome_apply]
      exact ⟨rfl, rfl, _, rfl⟩

/-- What is kept and has been written is read back. -/
theorem read_of_ending {kept : List Value} {text : String}
    (keeps : Keeps surroundings arguments kept)
    (ended : ending surroundings arguments = .ok text) : Json.read text = .ok (.list kept) := by
  obtain ⟨settings, configured, extracted⟩ := extraction_of_keeps keeps
  rw [ending_of_ok configured, extracted] at ended
  obtain ⟨url, path, settings, -, -, -, extracted⟩ := keeps
  exact read_of_extractFile extracted ended

end

/-! ## Statuses and texts -/

section

variable {ended : Except Fault String}

/-- A fault other than an interruption has its status, and its diagnostic is the last that is said. -/
theorem report_of_ne {fault : Fault} (other : fault ≠ .interrupted) :
    statusOf (.error fault) = 1 ∧
      farewell (.error fault) = [.written ((Diagnostic.ofFault fault).text ++ "\n")] := by
  cases fault with
  | interrupted => exact absurd rfl other
  | _ => exact ⟨rfl, rfl⟩

theorem statusOf_cases (ended : Except Fault String) :
    statusOf ended = 0 ∨ statusOf ended = 1 ∨ statusOf ended = 130 := by
  simp only [statusOf]
  split <;> simp

theorem statusOf_eq_zero_iff : statusOf ended = 0 ↔ ended = .ok (outputOf ended) := by
  cases ended with
  | ok text => exact ⟨fun _ => rfl, fun _ => rfl⟩
  | error fault =>
      constructor
      · intro well
        by_cases interrupted : fault = .interrupted
        · subst interrupted
          cases well
        · rw [(report_of_ne interrupted).1] at well
          cases well
      · rintro ⟨⟩

theorem statusOf_eq_130_iff : statusOf ended = 130 ↔ ended = .error .interrupted := by
  constructor
  · intro stopped
    cases ended with
    | ok text => cases stopped
    | error fault =>
        by_cases interrupted : fault = .interrupted
        · rw [interrupted]
        · rw [(report_of_ne interrupted).1] at stopped
          cases stopped
  · rintro rfl
    rfl

theorem outputOf_of_statusOf (failed : statusOf ended ≠ 0) : outputOf ended = "" := by
  cases ended with
  | ok text => exact absurd rfl failed
  | error fault => rfl

end

/-- How a run of the command line ends.  Whatever it is given and whatever the browser does, as long as
measuring an element fails only as calls do, a run that has read its command line keeps its contract:
its status says how it went, its output is the text of what is kept or nothing, and every fault is
told of.  A wait without end counts as a fault. -/
theorem runs_keep_contract {surroundings : Surroundings}
    (fails : surroundings.world.content.FailsByCalls) {commandLine : List String}
    {arguments : Arguments} (accepted : readArguments commandLine = .ok arguments) :
    KeepsContract surroundings arguments (run surroundings commandLine) := by
  have runs : run surroundings commandLine = runArguments surroundings arguments := by
    rw [run, accepted]
  obtain ⟨status, output, earlier, messages⟩ := runArguments_ending surroundings arguments
  rw [runs]
  constructor
  · rw [status]
    exact statusOf_cases _
  · rw [status, statusOf_eq_130_iff]
    exact ending_interrupted_iff fails
  · rw [status, output]
    exact outputOf_of_statusOf
  · rw [status, output, statusOf_eq_zero_iff]
    exact ending_eq_ok_iff
  · rw [status, output, statusOf_eq_zero_iff]
    intro ended kept keeps
    exact read_of_ending keeps ended
  · intro fault meets notInterrupted
    have ended := ending_of_meetsFault meets
    rcases ending_isOwn fails fault ended with own | interrupted
    · obtain ⟨failed, said⟩ := report_of_ne notInterrupted
      obtain ⟨detail, hint, told, text⟩ := Diagnostic.exists_text_eq own
      rw [status, output, messages, ended, said, text]
      exact ⟨own, failed, rfl, earlier, detail, hint, told, rfl⟩
    · exact absurd interrupted notInterrupted

/-- A command line whose file has a name that no file can have. -/
def namelessFile : List String := ["https://example.org", "rules\x00.json", "--width", "375"]

/-- What this command line says. -/
def namelessArguments : Arguments :=
  { Arguments.standard with
    url := .text "https://example.org"
    stylesheet := .text "rules\x00.json"
    width := .ofInt 375 }

/-- What a run finds where the page cannot be opened and its one element cannot be measured. -/
def strandedSurroundings : Surroundings := { calmSurroundings with world := strandedWorld }

theorem namelessFile_keeps_contract :
    strandedSurroundings.world.content.FailsByCalls ∧
      readArguments namelessFile = .ok namelessArguments ∧
      KeepsContract strandedSurroundings namelessArguments
        (run strandedSurroundings namelessFile) ∧
      (run strandedSurroundings namelessFile).status = 1 := by
  have accepted : readArguments namelessFile = .ok namelessArguments := rfl
  exact ⟨strandedWorld_failsByCalls, accepted,
    runs_keep_contract strandedWorld_failsByCalls accepted, by decide +kernel⟩

end CriticalCss.CommandLine
