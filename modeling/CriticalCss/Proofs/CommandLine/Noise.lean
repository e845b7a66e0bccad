import CriticalCss.CommandLine.Run
import CriticalCss.Proofs.Extraction.Noise

/-!
# Noise shows in the log only

What a page says and requests while it is opened changes neither what a run of the command line
writes nor how it ends, and it changes no call but the requests themselves.
-/

namespace CriticalCss.CommandLine

open Activity Browser Extraction

/-- The text of a message that is no record of the log. -/
def Message.written? : Message → Option String
  | .written text => some text
  | .logged _ => none

/-- Two runs end alike, and they differ only in noise and in the log. -/
structure Conclusion.Resembles (first second : Conclusion) : Prop where
  status : first.status = second.status
  output : first.output = second.output
  steps : quiet first.steps = quiet second.steps
  spinner : first.spinner = second.spinner
  written : first.messages.filterMap Message.written? = second.messages.filterMap Message.written?

/-- A run with another course of opening its address. -/
def Surroundings.withCourse (surroundings : Surroundings) (course : Visit) : Surroundings :=
  { surroundings with world := { surroundings.world with course := course } }

variable {surroundings : Surroundings} {other : Visit} {status : Option Int}

/-- A run extracts from a file, or its arguments do not name one. -/
theorem extraction_eq (arguments : Arguments) (settings : Extraction.Settings) :
    (∃ url path, arguments.url = .text url ∧ arguments.stylesheet = .text path ∧
      ∀ surroundings, extraction surroundings arguments settings =
        extractFile surroundings.world surroundings.files url path settings) ∨
    ∀ surroundings, extraction surroundings arguments settings =
      fail (.notAPath arguments.stylesheet.kind) := by
  by_cases texts : ∃ url path, arguments.url = .text url ∧ arguments.stylesheet = .text path
  · obtain ⟨url, path, urlIs, pathIs⟩ := texts
    left
    refine ⟨url, path, urlIs, pathIs, ?_⟩
    intro surroundings
    rw [extraction, urlIs, pathIs]
  · right
    intro surroundings
    rw [extraction]
    split
    next url path urlIs pathIs => exact absurd ⟨url, path, urlIs, pathIs⟩ texts
    · rfl

theorem gist_extraction (arrives : surroundings.world.course.arrival = .arrived status)
    (alsoArrives : other.arrival = .arrived status) (arguments : Arguments)
    (settings : Extraction.Settings) (state : State) :
    gist (extraction (surroundings.withCourse other) arguments settings state) =
      gist (extraction surroundings arguments settings state) := by
  rcases extraction_eq arguments settings with ⟨url, path, -, -, extracts⟩ | fails
  · rw [extracts, extracts]
    exact gist_extractFile surroundings.world arrives alsoArrives surroundings.files url path settings
      state
  · rw [fails, fails]

/-- Writing what has been extracted takes no step. -/
theorem outcome_apply (surroundings : Surroundings) (arguments : Arguments)
    (settings : Extraction.Settings) (state : State) :
    outcome surroundings arguments settings state =
      let ran := extraction surroundings arguments settings state
      ⟨ran.outcome >>= fun kept => Stylesheet.toLine (.list kept), ran.steps, ran.state⟩ := by
  change (extraction surroundings arguments settings).bind _ state = _
  cases ends : (extraction surroundings arguments settings state).outcome with
  | ok kept =>
      rw [bind_of_ok ends]
      simp [ofOutcome, Transcript.after, ends, Bind.bind, Except.bind]
  | error fault =>
      rw [bind_of_error ends]
      simp [ends, Bind.bind, Except.bind]

theorem gist_outcome (arrives : surroundings.world.course.arrival = .arrived status)
    (alsoArrives : other.arrival = .arrived status) (arguments : Arguments)
    (settings : Extraction.Settings) (state : State) :
    gist (outcome (surroundings.withCourse other) arguments settings state) =
      gist (outcome surroundings arguments settings state) := by
  obtain ⟨sameOutcome, sameSteps⟩ :=
    Prod.mk.inj (gist_extraction arrives alsoArrives arguments settings state)
  simp only [gist, outcome_apply, sameOutcome, sameSteps]

theorem runArguments_of_error {arguments : Arguments} {fault : Fault}
    (failed : configuration arguments surroundings.environment = .error fault) :
    runArguments surroundings arguments =
      ⟨statusOf (.error fault), "",
        .configure arguments.jsonLogs (wantsDebug arguments surroundings.environment),
        .logged (startRecord surroundings.logger) :: farewell (.error fault), [], []⟩ := by
  simp only [runArguments, failed]

theorem runArguments_of_ok {arguments : Arguments} {settings : Extraction.Settings}
    (configured : configuration arguments surroundings.environment = .ok settings) :
    runArguments surroundings arguments =
      let transcript := outcome surroundings arguments settings surroundings.state
      let debug := wantsDebug arguments surroundings.environment
      ⟨statusOf transcript.outcome, outputOf transcript.outcome, .configure arguments.jsonLogs debug,
        .logged (startRecord surroundings.logger) ::
          (transcript.steps.filterMap Step.event?).map (fun event => .logged event.record) ++
            farewell transcript.outcome,
        transcript.steps,
        Spinner.ownSteps (!debug) surroundings.terminal (spinnerText arguments)⟩ := by
  simp only [runArguments, configured]

/-- Reports are no written messages. -/
theorem written_logged (events : List Event) :
    (events.map fun event => Message.logged event.record).filterMap Message.written? = [] := by
  rw [List.filterMap_eq_nil_iff]
  intro message member
  obtain ⟨event, -, rfl⟩ := List.mem_map.mp member
  rfl

theorem runArguments_resembles (arrives : surroundings.world.course.arrival = .arrived status)
    (alsoArrives : other.arrival = .arrived status) (arguments : Arguments) :
    (runArguments (surroundings.withCourse other) arguments).Resembles
      (runArguments surroundings arguments) := by
  cases configured : configuration arguments surroundings.environment with
  | error fault =>
      have alsoConfigured : configuration arguments (surroundings.withCourse other).environment =
        .error fault := configured
      rw [runArguments_of_error alsoConfigured, runArguments_of_error configured]
      exact ⟨rfl, rfl, rfl, rfl, rfl⟩
  | ok settings =>
      have alsoConfigured : configuration arguments (surroundings.withCourse other).environment =
        .ok settings := configured
      have same := gist_outcome arrives alsoArrives arguments settings surroundings.state
      have sameState : (surroundings.withCourse other).state = surroundings.state := rfl
      rw [runArguments_of_ok alsoConfigured, runArguments_of_ok configured, sameState]
      generalize outcome (surroundings.withCourse other) arguments settings
        surroundings.state = disturbed at same ⊢
      generalize outcome surroundings arguments settings surroundings.state = ran at same ⊢
      obtain ⟨sameOutcome, sameSteps⟩ := Prod.mk.inj same
      constructor
      · exact congrArg statusOf sameOutcome
      · exact congrArg outputOf sameOutcome
      · exact sameSteps
      · rfl
      · simp only [List.filterMap_append, List.filterMap_cons, Message.written?, written_logged,
          sameOutcome]

/-- Noise does not influence the result.  If an address arrives with the same answer while its page
says and requests whatever it likes, every extraction ends alike and takes the same steps but for
the noise, and every run of the command line ends alike and writes the same, but for the log. -/
theorem noise_is_ignored (arrives : surroundings.world.course.arrival = .arrived status)
    (alsoArrives : other.arrival = .arrived status) :
    (∀ url settings rules state, ∃ ran disturbed,
      extract surroundings.world url settings rules state = ran ∧
      extract { surroundings.world with course := other } url settings rules state = disturbed ∧
      disturbed.outcome = ran.outcome ∧ quiet disturbed.steps = quiet ran.steps) ∧
    ∀ commandLine, (run (surroundings.withCourse other) commandLine).Resembles
      (run surroundings commandLine) := by
  constructor
  · intro url settings rules state
    have same := gist_extract surroundings.world arrives alsoArrives url settings rules state
    obtain ⟨sameOutcome, sameSteps⟩ := Prod.mk.inj same
    exact ⟨_, _, rfl, rfl, sameOutcome, sameSteps⟩
  · intro commandLine
    simp only [run]
    cases readArguments commandLine with
    | ok arguments => exact runArguments_resembles arrives alsoArrives arguments
    | error stop => cases stop <;> exact ⟨rfl, rfl, rfl, rfl, rfl⟩

/-- An address that arrives while its page says nothing. -/
def silentVisit : Visit := ⟨[], [], .arrived (some 200)⟩

/-- An address that arrives in the same way while its page has a lot to say. -/
def noisyVisit : Visit where
  events := [.console "debug: ready", .pageError "x is undefined",
    .requestFailed "https://example.org/a.png" (some "net::ERR_FAILED")]
  requests := ["https://example.org/a.js", "https://example.org/a.css"]
  arrival := .arrived (some 200)

/-- A page with one element, which lies on its first screen. -/
def heroPage : Content where
  evaluation := fun _ => none
  listing := fun selector =>
    .ok (if selector = ".hero" then
      [⟨selector, "0", some ⟨.ok (.ofInt 120), .ok (.text "static")⟩, false⟩] else [])

/-- The rule for the element of this page, and one for elements that it does not have. -/
def partlyCriticalRules : Value :=
  .list [.object [("type", .text "rule"), ("selectors", .list [.text ".hero", .text ".late"])]]

/-- The text of a stylesheet with this rule. -/
def heroStylesheet : String :=
  "\x7b\x22stylesheet\x22: \x7b\x22rules\x22: [\x7b\x22type\x22: \x22rule\x22, " ++
    "\x22selectors\x22: [\x22.hero\x22, \x22.late\x22]\x7d]\x7d\x7d"

/-- What a run finds where nothing is in its way and the page is silent. -/
def calmSurroundings : Surroundings where
  environment := []
  files := ⟨[(["rules.json"], .file (heroStylesheet.toList.map Char.toNat))]⟩
  world := ⟨soundMachine, silentVisit, heroPage⟩
  state := .initial [] []
  terminal := false
  logger := "foldline.cli"

/-- A command line that names the stylesheet. -/
def heroLine : List String := ["https://example.org", "rules.json"]

/-- What this command line says. -/
def heroArguments : Arguments :=
  { Arguments.standard with url := .text "https://example.org", stylesheet := .text "rules.json" }

theorem ofText_rules : FilePath.ofText "rules.json" = ⟨"", ["rules.json"]⟩ := by
  have names : "rules.json".splitOn "/" = ["rules.json"] := by
    rw [String.splitOn, if_neg (by decide)]
    -- one step for each character, of which none is a slash
    iterate 10 rw [String.splitOnAux, if_neg (by decide), if_neg (by decide)]
    rw [String.splitOnAux, if_pos (by decide)]
    rfl
  rw [FilePath.ofText, names]
  rfl

/-- The noise happens: the page reports three events and requests two resources, and the rule is
kept for its first selector. -/
theorem heroLine_is_disturbed :
    (run (calmSurroundings.withCourse noisyVisit) heroLine).output =
        "[\x7b\x22type\x22: \x22rule\x22, \x22selectors\x22: [\x22.hero\x22]\x7d]" ∧
      (run (calmSurroundings.withCourse noisyVisit) heroLine).steps.countP Step.isNoise = 5 ∧
      (run calmSurroundings heroLine).steps.countP Step.isNoise = 0 := by
  have accepted : readArguments heroLine = .ok heroArguments := rfl
  simp only [run, accepted, runArguments, outcome, extraction, heroArguments, extractFile,
    Stylesheet.load, Stylesheet.readText, ofText_rules]
  decide +kernel

theorem noisyVisit_is_ignored :
    calmSurroundings.world.course.arrival = .arrived (some 200) ∧
      noisyVisit.arrival = .arrived (some 200) ∧
      (∃ ran disturbed,
        extract calmSurroundings.world "https://example.org" .standard partlyCriticalRules
          (.initial [] []) = ran ∧
        extract { calmSurroundings.world with course := noisyVisit } "https://example.org" .standard
          partlyCriticalRules (.initial [] []) = disturbed ∧
        disturbed.outcome = ran.outcome ∧ quiet disturbed.steps = quiet ran.steps ∧
        disturbed.steps.countP Step.isNoise = 5 ∧ ran.steps.countP Step.isNoise = 0) ∧
      (run (calmSurroundings.withCourse noisyVisit) heroLine).Resembles
        (run calmSurroundings heroLine) ∧
      (run (calmSurroundings.withCourse noisyVisit) heroLine).output =
        "[\x7b\x22type\x22: \x22rule\x22, \x22selectors\x22: [\x22.hero\x22]\x7d]" ∧
      (run (calmSurroundings.withCourse noisyVisit) heroLine).steps.countP Step.isNoise = 5 ∧
      (run calmSurroundings heroLine).steps.countP Step.isNoise = 0 := by
  obtain ⟨extracts, runs⟩ := @noise_is_ignored calmSurroundings noisyVisit (some 200) rfl rfl
  obtain ⟨ran, disturbed, ranIs, disturbedIs, sameOutcome, sameSteps⟩ :=
    extracts "https://example.org" .standard partlyCriticalRules (.initial [] [])
  have noise : disturbed.steps.countP Step.isNoise = 5 := by
    rw [← disturbedIs]
    decide +kernel
  have silence : ran.steps.countP Step.isNoise = 0 := by
    rw [← ranIs]
    decide +kernel
  exact ⟨rfl, rfl,
    ⟨ran, disturbed, ranIs, disturbedIs, sameOutcome, sameSteps, noise, silence⟩,
    runs heroLine, heroLine_is_disturbed⟩

end CriticalCss.CommandLine
