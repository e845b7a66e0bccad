import CriticalCss.Proofs.Browser.Session

/-!
# What opening an address comes to

While an address is opened, the page says things by itself and requests what it needs.  All
that is noise: it takes steps of its own kind and changes nothing in the session but what is
known of the last failure.  How the address arrives decides what opening it gives, and the
last failure is looked at only if it does not arrive.
-/

namespace CriticalCss.Browser

open Activity

/-- The step is noise: a page says something by itself, or requests something. -/
def Step.isNoise : Step → Bool
  | .reported (.pageMessage _) | .reported (.pageError _) | .reported (.scriptBlocked _) => true
  | .called (.request _ _) => true
  | _ => false

theorem Step.isOutside_of_isNoise {step : Step} (noise : step.isNoise = true) :
    step.IsOutside := by
  simp only [isNoise] at noise
  split at noise
  all_goals trivial

/-- A state without what is known of the last failure. -/
def State.calm (state : State) : State := { state with lastFailure := none }

/-! ## Noise -/

/-- A deed that makes nothing but noise. -/
abbrev IsNoisy {α : Type} (deed : Deed α) : Prop :=
  deed.Keeps (fun step => step.isNoise = true) State.calm

theorem take_isNoisy {ρ : Type} {view : State → ρ} {step : Step} (noise : step.isNoise = true) :
    (take step : Deed Unit).Keeps (fun step => step.isNoise = true) view :=
  keeps_take noise

theorem hear_isNoisy (event : PageEvent) : IsNoisy (hear event) := by
  simp only [hear]
  split
  · split
    · exact take_isNoisy rfl
    · exact keeps_ofOutcome _
  · exact take_isNoisy rfl
  · split
    · exact keeps_ofOutcome _
    · exact keeps_update fun _ => rfl

/-- A request is noise, and changes nothing. -/
theorem makeRequest_keeps {ρ : Type} (view : State → ρ) (url : String) :
    (makeRequest url).Keeps (fun step => step.isNoise = true) view := by
  have decides : Keeps (fun step => step.isNoise = true) view (decide url) := by
    apply (keeps_inspect _).bind
    intro filters
    split
    · split
      · exact (take_isNoisy rfl).bind fun _ => keeps_ofOutcome _
      · exact keeps_ofOutcome _
    · exact keeps_ofOutcome _
  exact decides.bind fun _ => take_isNoisy rfl

theorem makeRequest_isNoisy (url : String) : IsNoisy (makeRequest url) :=
  makeRequest_keeps State.calm url

/-- What a page does by itself while it is opened. -/
def commotion (course : Visit) : Deed Unit :=
  (each hear course.events).bind fun _ => each makeRequest course.requests

theorem commotion_isNoisy (course : Visit) : IsNoisy (commotion course) :=
  (keeps_each hear_isNoisy _).bind fun _ => keeps_each makeRequest_isNoisy _

theorem hear_outcome (event : PageEvent) (state : State) :
    (hear event state).outcome = .ok () := by
  simp only [hear]
  split
  · split <;> rfl
  · rfl
  · split <;> rfl

theorem makeRequest_outcome (url : String) (state : State) :
    (makeRequest url state).outcome = .ok () := by
  have decides : ∃ outcome, (decide url state).outcome = .ok outcome := by
    cases filters : state.filtersRequests with
    | false => exact ⟨.unfiltered, by simp [decide, Activity.bind, observe, inspect, filters,
        ofOutcome, Transcript.after]⟩
    | true =>
        cases script : Url.isScript url with
        | false => exact ⟨.continued, by simp [decide, Activity.bind, observe, inspect, filters,
            script, ofOutcome, Transcript.after]⟩
        | true => exact ⟨.refused, by simp [decide, Activity.bind, observe, inspect, filters,
            script, report, take, ofOutcome, Transcript.after]⟩
  obtain ⟨outcome, decided⟩ := decides
  change ((decide url).bind (fun outcome => call (.request url outcome)) state).outcome = _
  rw [bind_of_ok decided]
  rfl

/-- What succeeds for every member succeeds for a list of them. -/
theorem each_outcome {α : Type} {act : α → Deed Unit}
    (succeeds : ∀ member state, (act member state).outcome = .ok ()) (members : List α)
    (state : State) : (each act members state).outcome = .ok () := by
  induction members generalizing state with
  | nil => rfl
  | cons member rest ih =>
      rw [each, bind_of_ok (succeeds member state), Transcript.outcome_after]
      exact ih _

/-- Noise makes nothing fail. -/
theorem commotion_outcome (course : Visit) (state : State) :
    (commotion course state).outcome = .ok () := by
  rw [commotion, bind_of_ok (each_outcome hear_outcome _ _), Transcript.outcome_after]
  exact each_outcome makeRequest_outcome _ _

/-! ## Opening an address -/

/-- Looking for the page takes no step and changes nothing. -/
theorem requirePage_keeps {ρ : Type} {allowed : Step → Prop} {view : State → ρ} :
    requirePage.Keeps allowed view := by
  apply (keeps_inspect _).bind
  intro isOpen
  cases isOpen <;> exact keeps_ofOutcome _

theorem requirePage_apply {state : State} (isOpen : state.opened.has .page = true) :
    requirePage state = ⟨.ok (), [], state⟩ := by
  simp [requirePage, require, Activity.bind, observe, inspect, isOpen, ofOutcome,
    Transcript.after]

namespace Arrival

/-- What the call to open an address gives. -/
def outcome : Arrival → Except Fault (Option Int)
  | .interrupted => .error .interrupted
  | .failed text => .error (.browserCall text)
  | .arrived status => .ok status

/-- What opening an address gives, by how it arrives and by the last failure. -/
def result (target : String) (failure : Option ResourceFailure) :
    Arrival → Except Fault (Option Int)
  | .interrupted => .error .interrupted
  | .failed text => .error (navigationFault target text failure)
  | .arrived status => .ok status

/-- What is reported about an address that has arrived. -/
def reports (target : String) : Arrival → List Step
  | .arrived status => [.reported (.pageOpened target status)]
  | _ => []

end Arrival

theorem visit_apply (settings : Settings) (url : String) (course : Visit) (state : State) :
    visit settings url course state =
      ⟨course.arrival.outcome,
        .called (.visit url settings.waitUntil settings.timeout) :: (commotion course state).steps,
        (commotion course state).state⟩ := by
  have succeeds := commotion_outcome course state
  obtain ⟨events, requests, arrival⟩ := course
  have split : visit settings url ⟨events, requests, arrival⟩ state =
      ((commotion ⟨events, requests, arrival⟩).bind
        (fun _ => ofOutcome arrival.outcome) state).after
          [.called (.visit url settings.waitUntil settings.timeout)] := by
    have together : (commotion ⟨events, requests, arrival⟩).bind
          (fun _ => ofOutcome arrival.outcome) =
        (each hear events).bind fun _ => (each makeRequest requests).bind fun _ =>
          ofOutcome arrival.outcome := Activity.bind_assoc _ _ _
    rw [together]
    cases arrival <;> rfl
  rw [split, bind_of_ok succeeds]
  simp [ofOutcome, Transcript.after]

/-- Opening an address is one call, then noise, and then a report if it arrives. -/
theorem navigate_apply {state : State} (isOpen : state.opened.has .page = true)
    (settings : Settings) (url : String) (course : Visit) :
    navigate settings url course state =
      ⟨course.arrival.result (Url.quote url) (commotion course state.calm).state.lastFailure,
        .called (.visit (Url.quote url) settings.waitUntil settings.timeout) ::
          (commotion course state.calm).steps ++ course.arrival.reports (Url.quote url),
        (commotion course state.calm).state⟩ := by
  have required : requirePage state.calm = ⟨.ok (), [], state.calm⟩ := requirePage_apply isOpen
  have passes : (requirePage state.calm).outcome = .ok () := by rw [required]
  change (requirePage.bind _ state.calm).after [] = _
  rw [bind_of_ok passes, required]
  simp only [observe, visit_apply]
  cases course.arrival with
  | interrupted =>
      simp [Arrival.outcome, Arrival.result, Arrival.reports, Activity.fail, ofOutcome,
        Transcript.after]
  | failed text =>
      simp [Arrival.outcome, Arrival.result, Arrival.reports, Activity.bind, observe, inspect,
        Activity.fail, ofOutcome, Transcript.after]
  | arrived status =>
      simp [Arrival.outcome, Arrival.result, Arrival.reports, Activity.bind, observe, report, take,
        ofOutcome, Transcript.after]

/-- No address is opened without a page. -/
theorem navigate_of_closed {state : State} (closed : state.opened.has .page = false)
    (settings : Settings) (url : String) (course : Visit) :
    navigate settings url course state = ⟨.error .noPage, [], state.calm⟩ := by
  simp [navigate, requirePage, require, Activity.bind, observe, update, inspect, closed,
    Activity.fail, ofOutcome, Transcript.after, State.calm]

/-- Opening an address takes no steps but a call, noise and a report, and changes nothing but what is
known of the last failure. -/
theorem navigate_keeps {ρ : Type} {allowed : Step → Prop} {view : State → ρ}
    (visits : ∀ target waitUntil timeout, allowed (.called (.visit target waitUntil timeout)))
    (noise : ∀ step, step.isNoise = true → allowed step)
    (opens : ∀ target status, allowed (.reported (.pageOpened target status)))
    (calm : ∀ state : State, view state.calm = view state)
    (settings : Settings) (url : String) (course : Visit) :
    (navigate settings url course).Keeps allowed view := by
  intro state
  cases isOpen : state.opened.has .page with
  | false =>
      rw [navigate_of_closed isOpen]
      exact ⟨by simp, calm state⟩
  | true =>
      obtain ⟨noisy, same⟩ := commotion_isNoisy course state.calm
      rw [navigate_apply isOpen]
      constructor
      · intro step member
        simp only [List.cons_append, List.mem_cons, List.mem_append] at member
        rcases member with rfl | noisyStep | reported
        · exact visits _ _ _
        · exact noise step (noisy step noisyStep)
        · unfold Arrival.reports at reported
          split at reported
          · rw [List.mem_singleton.mp reported]
            exact opens _ _
          · cases reported
      · have unchanged : view (commotion course state.calm).state = view state.calm := by
          rw [← calm, same]
          exact calm state.calm
        exact unchanged.trans (calm state)

/-- Opening an address touches nothing in the page and leaves open what is open. -/
theorem navigate_outside (settings : Settings) (url : String) (course : Visit) :
    (navigate settings url course).Keeps Step.IsOutside State.opened :=
  navigate_keeps (fun _ _ _ => trivial) (fun _ => Step.isOutside_of_isNoise)
    (fun _ _ => trivial) (fun _ => rfl) settings url course

/-- An address is opened only in a page. -/
theorem page_of_navigate {settings : Settings} {url : String} {course : Visit} {state : State}
    {status : Option Int} (arrived : (navigate settings url course state).outcome = .ok status) :
    state.opened.has .page = true := by
  cases isOpen : state.opened.has .page with
  | true => rfl
  | false =>
      rw [navigate_of_closed isOpen] at arrived
      cases arrived

/-- These steps open an address that arrives: first there is a call, then noise, then a report. -/
def IsArrival (course : Visit) (steps : List Step) : Prop :=
  ∃ target waitUntil timeout noise status, course.arrival = .arrived status ∧
    (∀ step ∈ noise, step.isNoise = true) ∧
    steps = [.called (.visit target waitUntil timeout)] ++ noise ++
      [.reported (.pageOpened target status)]

theorem IsArrival.isOutside {course : Visit} {steps : List Step} (arrival : IsArrival course steps) :
    ∀ step ∈ steps, step.IsOutside := by
  obtain ⟨target, waitUntil, timeout, noise, status, -, noisy, rfl⟩ := arrival
  simp only [List.forall_mem_append, List.forall_mem_singleton]
  exact ⟨⟨trivial, fun step member => Step.isOutside_of_isNoise (noisy step member)⟩, trivial⟩

/-- An address that is opened arrives. -/
theorem navigate_isArrival {settings : Settings} {url : String} {course : Visit} {state : State}
    {status : Option Int} (arrived : (navigate settings url course state).outcome = .ok status) :
    IsArrival course (navigate settings url course state).steps := by
  have isOpen := page_of_navigate arrived
  rw [navigate_apply isOpen] at arrived ⊢
  have noisy := (commotion_isNoisy course state.calm).1
  cases arrival : course.arrival with
  | interrupted =>
      rw [arrival] at arrived
      cases arrived
  | failed text =>
      rw [arrival] at arrived
      cases arrived
  | arrived reached => exact ⟨_, _, _, _, reached, arrival, noisy, rfl⟩

/-- If an address cannot be opened in a page, there is nothing but noise after the call. -/
theorem navigate_of_not_arrived {course : Visit} {state : State}
    (isOpen : state.opened.has .page = true) (lost : ∀ status, course.arrival ≠ .arrived status)
    (settings : Settings) (url : String) :
    ∃ noise, (∀ step ∈ noise, step.isNoise = true) ∧
      (navigate settings url course state).steps =
        .called (.visit (Url.quote url) settings.waitUntil settings.timeout) :: noise := by
  have noisy := (commotion_isNoisy course state.calm).1
  have silent : course.arrival.reports (Url.quote url) = [] := by
    cases arrival : course.arrival with
    | arrived status => exact absurd arrival (lost status)
    | _ => rfl
  refine ⟨_, noisy, ?_⟩
  rw [navigate_apply isOpen, silent, List.append_nil]

end CriticalCss.Browser
