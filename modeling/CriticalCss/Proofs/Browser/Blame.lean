import CriticalCss.Proofs.Browser.Launching
import CriticalCss.Proofs.NetworkError

/-!
# What a failure to open an address is blamed on

While an address is opened, the failure of a request is noted in the place of earlier ones.  If the
address cannot be opened, the failure noted last is to blame, and if there is none, what the browser
reports.  Whatever a session has been through before is forgotten.
-/

namespace CriticalCss

/-! ## First lines -/

namespace Text

/-- A text that is not empty begins with this line, up to the first character that ends one. -/
def IsFirstLine (line text : String) : Prop :=
  text ≠ "" ∧ ∃ rest, text.toList = line.toList ++ rest ∧
    (∀ char ∈ line.toList, endsLine char = false) ∧ ∀ char ∈ rest.head?, endsLine char = true

theorem firstLine?_of_ne {text : String} (speaks : text ≠ "") :
    firstLine? text =
      some (String.ofList (text.toList.takeWhile fun char => !endsLine char)) := by
  have nonempty : text.toList ≠ [] := by simpa using speaks
  cases chars : text.toList with
  | nil => exact absurd chars nonempty
  | cons first rest => simp only [firstLine?, chars]

/-- A text that is not empty has a first line. -/
theorem exists_firstLine {text : String} (speaks : text ≠ "") :
    ∃ line, firstLine? text = some line ∧ IsFirstLine line text := by
  obtain ⟨line, rest, split, within, stops, taken⟩ :=
    exists_span (fun char => !endsLine char) text.toList
  refine ⟨String.ofList line, ?_, speaks, rest, ?_, ?_, ?_⟩
  · rw [firstLine?_of_ne speaks, taken]
  · rw [String.toList_ofList, split]
  · simpa using within
  · simpa using stops

end Text

namespace Browser

open Activity

/-! ## Noting failures -/

/-- The event tells of a request that has failed, and not because the session itself refused it. -/
def PageEvent.TellsFailure : PageEvent → Prop
  | .requestFailed _ reason => reason ≠ some refusalReason
  | .console _ | .pageError _ => False

/-- The failure that an event tells of. -/
def PageEvent.failure? : PageEvent → Option ResourceFailure
  | .requestFailed url reason =>
    if reasonOf reason = refusalReason then none else some ⟨url, reasonOf reason⟩
  | .console _ | .pageError _ => none

theorem reasonOf_eq_refusalReason_iff (reason : Option String) :
    reasonOf reason = refusalReason ↔ reason = some refusalReason := by
  cases reason with
  | none => simp [reasonOf, refusalReason]
  | some text =>
      by_cases empty : text = ""
      · subst empty
        decide
      · simp [reasonOf, empty]

theorem PageEvent.failure?_eq_none_iff (event : PageEvent) :
    event.failure? = none ↔ ¬event.TellsFailure := by
  cases event with
  | console | pageError => simp [failure?, TellsFailure]
  | requestFailed url reason =>
      simp [failure?, TellsFailure, reasonOf_eq_refusalReason_iff]

/-- The last failure that events tell of. -/
def lastFailure? (events : List PageEvent) : Option ResourceFailure :=
  (events.filterMap PageEvent.failure?).getLast?

theorem lastFailure?_cons (event : PageEvent) (rest : List PageEvent) :
    lastFailure? (event :: rest) = (lastFailure? rest).or event.failure? := by
  simp only [lastFailure?]
  cases told : event.failure? with
  | none => simp [told]
  | some failure =>
      cases last : (rest.filterMap PageEvent.failure?).getLast? <;>
        simp [told, last, List.getLast?_cons]

theorem hear_state (event : PageEvent) (state : State) :
    (hear event state).state =
      { state with lastFailure := event.failure?.or state.lastFailure } := by
  cases event with
  | console text =>
    simp only [hear]
    split <;> rfl
  | pageError text => rfl
  | requestFailed url reason =>
    simp only [hear, PageEvent.failure?]
    split <;> rfl

/-- Of several failures the last one is noted. -/
theorem each_hear_state (events : List PageEvent) (state : State) :
    (each hear events state).state =
      { state with lastFailure := (lastFailure? events).or state.lastFailure } := by
  induction events generalizing state with
  | nil => rfl
  | cons event rest ih =>
      rw [each, bind_of_ok (hear_outcome event state), Transcript.state_after, ih, hear_state,
        lastFailure?_cons, Option.or_assoc]

theorem commotion_state (course : Visit) (state : State) :
    (commotion course state).state =
      { state with lastFailure := (lastFailure? course.events).or state.lastFailure } := by
  have heard := each_outcome hear_outcome course.events state
  have requested : ∀ state : State, (each makeRequest course.requests state).state = state :=
    fun state => (keeps_each (makeRequest_keeps id) course.requests state).2
  rw [commotion, bind_of_ok heard, Transcript.state_after, requested, each_hear_state]

/-- Whether there is a failure to blame depends on the events only. -/
theorem lastFailure?_eq_none_iff (events : List PageEvent) :
    lastFailure? events = none ↔ ∀ event ∈ events, ¬event.TellsFailure := by
  simp only [lastFailure?, List.getLast?_eq_none_iff, List.filterMap_eq_nil_iff,
    PageEvent.failure?_eq_none_iff]

/-- A failure that no other follows is the last one. -/
theorem lastFailure?_of_last {before after : List PageEvent} {url : String}
    {reason : Option String} (fails : reason ≠ some refusalReason)
    (last : ∀ event ∈ after, ¬event.TellsFailure) :
    lastFailure? (before ++ .requestFailed url reason :: after) =
      some ⟨url, reasonOf reason⟩ := by
  have silent : after.filterMap PageEvent.failure? = [] := by
    simpa only [List.filterMap_eq_nil_iff, PageEvent.failure?_eq_none_iff] using last
  have told : (PageEvent.requestFailed url reason).failure? = some ⟨url, reasonOf reason⟩ := by
    simp [PageEvent.failure?, reasonOf_eq_refusalReason_iff, fails]
  rw [lastFailure?, List.filterMap_append, List.filterMap_cons_some told, silent,
    List.getLast?_concat]

/-- What opening an address in a page gives depends on nothing that came before. -/
theorem navigate_outcome {state : State} (isOpen : state.opened.has .page = true)
    (settings : Settings) (url : String) (course : Visit) :
    (navigate settings url course state).outcome =
      course.arrival.result (Url.quote url) (lastFailure? course.events) := by
  rw [navigate_apply isOpen, commotion_state]
  simp only [State.calm, Option.or_none]

/-! ## The life of a session -/

/-- Something that a session with a page goes through. -/
inductive Incident where
  | opens (url : String) (course : Visit)
  | hears (event : PageEvent)
  | requests (url : String)

namespace Incident

/-- The state that an incident leads to. -/
def pass (settings : Settings) (state : State) : Incident → State
  | .opens url course => (navigate settings url course state).state
  | .hears event => (overhear event state).state
  | .requests url => (makeRequest url state).state

theorem overhear_isNoisy (event : PageEvent) : IsNoisy (overhear event) := by
  refine (keeps_inspect _).bind fun hears => ?_
  split
  · exact keeps_ofOutcome _
  · exact hear_isNoisy _

/-- No incident opens or closes a part of the session. -/
theorem pass_opened (settings : Settings) (state : State) (incident : Incident) :
    (incident.pass settings state).opened = state.opened := by
  cases incident with
  | opens url course => exact (navigate_outside settings url course state).2
  | hears event =>
      have calm := (overhear_isNoisy event state).2
      exact (State.mk.inj calm).2.2.2.2.1
  | requests url => exact (makeRequest_keeps State.opened url state).2

theorem foldl_pass_opened (settings : Settings) (past : List Incident) (state : State) :
    (past.foldl (pass settings) state).opened = state.opened := by
  induction past generalizing state with
  | nil => rfl
  | cons incident rest ih => rw [List.foldl_cons, ih, pass_opened]

end Incident

section

variable {settings : Settings} {machine : Machine} {first : State}

/-- Where a session stands that has been started and gone through some incidents. -/
def sessionAfter (settings : Settings) (machine : Machine) (first : State)
    (past : List Incident) : State :=
  past.foldl (Incident.pass settings) (start settings machine first).state

/-- A session that has been started has a page, whatever it goes through. -/
theorem sessionAfter_hasPage (started : (start settings machine first).outcome = .ok ())
    (past : List Incident) :
    (sessionAfter settings machine first past).opened.has .page = true := by
  rw [sessionAfter, Incident.foldl_pass_opened, opened_of_start started]
  rfl

/-! ## Whom to blame -/

/-- If an address cannot be opened, the last failure of this attempt is to blame, for its own reason
and with its own address.  Without one it is the first line of what the browser reports. -/
theorem last_failure_is_blamed (started : (start settings machine first).outcome = .ok ())
    (past : List Incident) (url : String) (course : Visit) {report : String}
    (failed : course.arrival = .failed report)
    (told : report ≠ "" ∨ ∃ event ∈ course.events, event.TellsFailure) :
    ∃ reason resource,
      (navigate settings url course (sessionAfter settings machine first past)).outcome =
          .error (.navigationFailed (Url.quote url) reason resource) ∧
        (∀ before address why after,
          course.events = before ++ .requestFailed address why :: after →
          why ≠ some refusalReason → (∀ event ∈ after, ¬event.TellsFailure) →
            reason = reasonOf why ∧ resource = address) ∧
        ((∀ event ∈ course.events, ¬event.TellsFailure) →
          Text.IsFirstLine reason report ∧ resource = "") := by
  rw [navigate_outcome (sessionAfter_hasPage started past), failed]
  cases noted : lastFailure? course.events with
  | some failure =>
      refine ⟨failure.reason, failure.url, rfl, ?_, ?_⟩
      · intro before address why after split fails last
        rw [split, lastFailure?_of_last fails last] at noted
        cases noted
        exact ⟨rfl, rfl⟩
      · intro silent
        rw [(lastFailure?_eq_none_iff _).mpr silent] at noted
        cases noted
  | none =>
      have silent := (lastFailure?_eq_none_iff _).mp noted
      have speaks : report ≠ "" := by
        rcases told with speaks | ⟨event, member, tells⟩
        · exact speaks
        · exact absurd tells (silent event member)
      obtain ⟨line, read, isFirst⟩ := Text.exists_firstLine speaks
      refine ⟨line, "", ?_, ?_, fun _ => ⟨isFirst, rfl⟩⟩
      · simp only [Arrival.result, navigationFault, read]
      · intro before address why after split fails last
        rw [split, lastFailure?_of_last fails last] at noted
        cases noted

/-- Where a session on that machine stands after an address for which a failure was noted. -/
def oncePast : List Incident :=
  [.opens "https://old.example/"
    ⟨[.requestFailed "https://old.example/" (some "net::ERR_ABORTED")], [], .failed "old"⟩]

/-- A style sheet fails without a reason, and then a script is refused by the session itself. -/
def unstyledVisit : Visit where
  events :=
    [.console "loading", .requestFailed "https://cdn.example/site.css" (some ""),
      .requestFailed "https://cdn.example/app.js" (some refusalReason)]
  requests := []
  arrival := .failed "Timeout 30000ms exceeded."

theorem soundMachine_starts : (start .standard soundMachine (.initial [] [])).outcome = .ok () :=
  start_succeeds rfl rfl rfl rfl .standard

theorem unstyledVisit_blames_style :
    (start .standard soundMachine (.initial [] [])).outcome = .ok () ∧
      unstyledVisit.arrival = .failed "Timeout 30000ms exceeded." ∧
      (∃ event ∈ unstyledVisit.events, event.TellsFailure) ∧
      (navigate .standard "https://example.org/" unstyledVisit
          (sessionAfter .standard soundMachine (.initial [] []) oncePast)).outcome =
        .error (.navigationFailed (Url.quote "https://example.org/") "unknown error"
          "https://cdn.example/site.css") := by
  have told : ∃ event ∈ unstyledVisit.events, event.TellsFailure :=
    ⟨.requestFailed "https://cdn.example/site.css" (some ""), by simp [unstyledVisit],
      by simp [PageEvent.TellsFailure, refusalReason]⟩
  obtain ⟨reason, resource, outcome, last, -⟩ := last_failure_is_blamed soundMachine_starts oncePast
    "https://example.org/" unstyledVisit rfl (.inr told)
  obtain ⟨rfl, rfl⟩ := last [.console "loading"] "https://cdn.example/site.css" (some "")
    [.requestFailed "https://cdn.example/app.js" (some refusalReason)] rfl
    (by simp [refusalReason]) (by simp [PageEvent.TellsFailure])
  exact ⟨soundMachine_starts, rfl, told, outcome⟩

/-! ## What is left without a diagnosis -/

/-- If there is anything to report about an address that could not be opened, the fault says so. -/
theorem navigationFault_of_told {target report : String} {failure : Option ResourceFailure}
    (told : report ≠ "" ∨ failure ≠ none) :
    ∃ reason resource, navigationFault target report failure =
      .navigationFailed target reason resource := by
  cases failure with
  | some failure => exact ⟨failure.reason, failure.url, rfl⟩
  | none =>
      have speaks : report ≠ "" := by simpa using told
      simp only [navigationFault, Text.firstLine?_of_ne speaks]
      exact ⟨_, _, rfl⟩

/-- A failure to open an address is one of navigation unless the browser reports nothing and no
request has failed: then it is taken for an internal fault. -/
theorem navigation_slips_iff (started : (start settings machine first).outcome = .ok ())
    (past : List Incident) (url : String) (course : Visit) {report : String}
    (failed : course.arrival = .failed report) :
    ∃ fault,
      (navigate settings url course (sessionAfter settings machine first past)).outcome =
          .error fault ∧
        (fault.label = "NavigationError" ↔
          report ≠ "" ∨ ∃ event ∈ course.events, event.TellsFailure) ∧
        (fault = .emptyReport ↔ report = "" ∧ ∀ event ∈ course.events, ¬event.TellsFailure) ∧
        ((Diagnostic.ofFault fault).kind = .internal ↔ fault = .emptyReport) := by
  have noted : lastFailure? course.events ≠ none ↔ ∃ event ∈ course.events, event.TellsFailure := by
    simp [lastFailure?_eq_none_iff]
  rw [navigate_outcome (sessionAfter_hasPage started past), failed]
  refine ⟨navigationFault (Url.quote url) report (lastFailure? course.events), rfl, ?_⟩
  by_cases told : report ≠ "" ∨ lastFailure? course.events ≠ none
  · obtain ⟨reason, resource, blamed⟩ : ∃ reason resource,
        navigationFault (Url.quote url) report (lastFailure? course.events) =
          .navigationFailed (Url.quote url) reason resource := navigationFault_of_told told
    rw [blamed]
    refine ⟨?_, ?_, ?_⟩
    · exact ⟨fun _ => told.imp_right noted.mp, fun _ => rfl⟩
    · refine ⟨nofun, fun ⟨quiet, silent⟩ => ?_⟩
      exact absurd ((lastFailure?_eq_none_iff _).mpr silent) (told.resolve_left (by simpa))
    · refine ⟨fun internal => ?_, nofun⟩
      exact absurd internal (Diagnostic.ofNavigation_kind_ne_internal _ _ _)
  · obtain ⟨quiet, silent⟩ : report = "" ∧ lastFailure? course.events = none := by
      simpa using told
    have untold : navigationFault (Url.quote url) "" none = .emptyReport := rfl
    rw [silent, quiet, untold]
    refine ⟨?_, ?_, ?_⟩
    · refine ⟨fun label => absurd label (by decide), fun told => ?_⟩
      rcases told with speaks | tells
      · exact absurd rfl speaks
      · exact absurd silent (noted.mpr tells)
    · exact ⟨fun _ => ⟨rfl, (lastFailure?_eq_none_iff _).mp silent⟩, fun _ => rfl⟩
    · exact ⟨fun _ => rfl, fun _ => rfl⟩

/-- An address that cannot be opened, about which the browser reports nothing. -/
def silentVisit : Visit := ⟨[], [], .failed ""⟩

theorem silentVisit_slips :
    (start .standard soundMachine (.initial [] [])).outcome = .ok () ∧
      silentVisit.arrival = .failed "" ∧
      (navigate .standard "https://example.org/" silentVisit
        (sessionAfter .standard soundMachine (.initial [] []) oncePast)).outcome =
          .error .emptyReport := by
  obtain ⟨fault, outcome, -, lost, -⟩ := navigation_slips_iff soundMachine_starts oncePast
    "https://example.org/" silentVisit rfl
  have silent : ∀ event ∈ silentVisit.events, ¬event.TellsFailure := by simp [silentVisit]
  rw [lost.mpr ⟨rfl, silent⟩] at outcome
  exact ⟨soundMachine_starts, rfl, outcome⟩

/-- An empty report is no reason for a failure of navigation. -/
theorem empty_report_slips :
    ¬∀ (settings : Settings) (machine : Machine) (first : State) (past : List Incident)
      (url : String) (course : Visit) (report : String),
      (start settings machine first).outcome = .ok () → course.arrival = .failed report →
      ∃ fault,
        (navigate settings url course (sessionAfter settings machine first past)).outcome =
          .error fault ∧ fault.label = "NavigationError" := by
  intro converts
  obtain ⟨fault, outcome, label⟩ := converts .standard soundMachine (.initial [] []) []
    "https://example.org/" silentVisit "" soundMachine_starts rfl
  rw [navigate_outcome (sessionAfter_hasPage soundMachine_starts [])] at outcome
  cases outcome
  revert label
  decide

end

end Browser

end CriticalCss
