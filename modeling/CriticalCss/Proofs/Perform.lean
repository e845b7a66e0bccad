import CriticalCss.Document

/-!
# Laws of carrying out a pass

Carrying out a pass commutes with sequencing, whatever answers its questions.  On a
fixed document each question is one recorded step followed by the rest of the pass, so
the outcome of a sequence is read off the outcomes of its parts.
-/

namespace CriticalCss

section

variable {σ τ ε α β : Type}

/-- An outcome of which a view is known is a result. -/
theorem exists_ok_of_view {outcome : Except Fault α} {view : α → β} {seen : β}
    (viewed : outcome.toOption.map view = some seen) :
    ∃ result, outcome = .ok result ∧ view result = seen := by
  cases outcome with
  | ok result => exact ⟨result, rfl, Option.some.inj viewed⟩
  | error fault => cases viewed

namespace Transcript

@[simp] theorem outcome_after (steps : List τ) (transcript : Transcript σ τ α) :
    (transcript.after steps).outcome = transcript.outcome := rfl

@[simp] theorem steps_after (steps : List τ) (transcript : Transcript σ τ α) :
    (transcript.after steps).steps = steps ++ transcript.steps := rfl

@[simp] theorem state_after (steps : List τ) (transcript : Transcript σ τ α) :
    (transcript.after steps).state = transcript.state := rfl

theorem after_after (first second : List τ) (transcript : Transcript σ τ α) :
    (transcript.after second).after first = transcript.after (first ++ second) := by
  simp [after]

end Transcript

namespace Activity

/-- An activity that succeeds hands its result and its state to what follows. -/
theorem bind_of_ok {activity : Activity σ τ α} {state : σ} {result : α}
    (ok : (activity state).outcome = .ok result) (next : α → Activity σ τ β) :
    activity.bind next state =
      (next result (activity state).state).after (activity state).steps := by
  simp only [bind, observe]
  rw [ok]

/-- An activity that fails keeps its steps and its state, and nothing follows it. -/
theorem bind_of_error {activity : Activity σ τ α} {state : σ} {fault : Fault}
    (failed : (activity state).outcome = .error fault) (next : α → Activity σ τ β) :
    activity.bind next state =
      ⟨.error fault, (activity state).steps, (activity state).state⟩ := by
  simp only [bind, observe]
  rw [failed]
  simp [ofOutcome, Transcript.after]

/-- Nothing is undone behind an activity that succeeds. -/
theorem undoing_of_ok {activity : Activity σ τ α} {state : σ} {result : α}
    (ok : (activity state).outcome = .ok result) (tidying : Tidying σ τ) :
    activity.undoing tidying state = activity state := by
  simp only [undoing, observe]
  rw [ok]
  simp [ofOutcome, Transcript.after, ← ok]

/-- An activity that fails is tidied up behind. -/
theorem undoing_of_error {activity : Activity σ τ α} {state : σ} {fault : Fault}
    (failed : (activity state).outcome = .error fault) (tidying : Tidying σ τ) :
    activity.undoing tidying state =
      ⟨.error fault, (activity state).steps ++ (tidying (activity state).state).1,
        (tidying (activity state).state).2⟩ := by
  simp only [undoing, observe]
  rw [failed]
  simp [observe, tidy, ofOutcome, Transcript.after]

/-- Undoing an activity does not change how it ends. -/
theorem undoing_outcome (activity : Activity σ τ α) (tidying : Tidying σ τ) (state : σ) :
    (activity.undoing tidying state).outcome = (activity state).outcome := by
  cases ends : (activity state).outcome with
  | ok result => rw [undoing_of_ok ends, ends]
  | error fault => rw [undoing_of_error ends]

/-- A sequence that succeeds consists of parts that succeed. -/
theorem ok_of_bind {activity : Activity σ τ α} {next : α → Activity σ τ β} {state : σ} {last : β}
    (ok : (activity.bind next state).outcome = .ok last) :
    ∃ result, (activity state).outcome = .ok result ∧
      (next result (activity state).state).outcome = .ok last := by
  cases ends : (activity state).outcome with
  | ok result =>
      rw [bind_of_ok ends] at ok
      exact ⟨result, rfl, ok⟩
  | error fault =>
      rw [bind_of_error ends] at ok
      cases ok

/-- An activity is tidied up behind, and its outcome stays. -/
theorem ensuring_apply (activity : Activity σ τ α) (tidying : Tidying σ τ) (state : σ) :
    activity.ensuring tidying state =
      ⟨(activity state).outcome, (activity state).steps ++ (tidying (activity state).state).1,
        (tidying (activity state).state).2⟩ := by
  simp [ensuring, observe, tidy, ofOutcome, Transcript.after]

theorem bind_observe {γ : Type} (activity : Activity σ τ α)
    (next : Except Fault α → Activity σ τ β) (last : β → Activity σ τ γ) :
    (activity.observe next).bind last =
      activity.observe fun outcome => (next outcome).bind last :=
  observe_assoc activity next _

/-- Sequencing is associative. -/
theorem bind_assoc {γ : Type} (activity : Activity σ τ α) (next : α → Activity σ τ β)
    (last : β → Activity σ τ γ) :
    (activity.bind next).bind last = activity.bind fun result => (next result).bind last := by
  refine (bind_observe activity _ last).trans ?_
  apply congrArg activity.observe
  funext outcome
  cases outcome <;> rfl

end Activity

namespace Pass

/-- Carrying out a sequence is carrying out its parts one after the other. -/
theorem run_bind (responder : Responder σ τ ε) (pass : Pass ε α)
    (next : α → Pass ε β) :
    (pass.bind next).run responder =
      (pass.run responder).bind fun result => (next result).run responder := by
  induction pass with
  | done outcome => cases outcome <;> rfl
  | note event rest ih =>
      simp only [bind, run]
      rw [ih, Activity.bind_observe]
  | query selector next ih =>
      simp only [bind, run]
      rw [Activity.bind_observe]
      simp only [ih]
  | top clear element next ih =>
      simp only [bind, run]
      rw [Activity.bind_observe]
      simp only [ih]
  | position element next ih =>
      simp only [bind, run]
      rw [Activity.bind_observe]
      simp only [ih]

end Pass

end

namespace Document

variable {ε α β : Type} (document : Document ε)

@[simp] theorem perform_done (outcome : Except Fault α) :
    document.perform (.done outcome) = ⟨outcome, [], ()⟩ := rfl

@[simp] theorem perform_note (event : Event) (rest : Pass ε α) :
    document.perform (.note event rest) =
      (document.perform rest).after [.reported event] := rfl

@[simp] theorem perform_query (selector : String)
    (next : Except Fault (List ε) → Pass ε α) :
    document.perform (.query selector next) =
      (document.perform (next (document.query selector))).after [.queried selector] :=
  rfl

@[simp] theorem perform_top (clear : String) (element : ε)
    (next : Except Fault Value → Pass ε α) :
    document.perform (.top clear element next) =
      (document.perform (next (document.top clear element))).after [.measured clear element] :=
  rfl

@[simp] theorem perform_position (element : ε)
    (next : Except Fault Value → Pass ε α) :
    document.perform (.position element next) =
      (document.perform (next (document.position element))).after
        [.positioned element] := rfl

/-- A sequence whose first part succeeds goes on with its result. -/
theorem perform_bind {pass : Pass ε α} {result : α}
    (ok : (document.perform pass).outcome = .ok result) (next : α → Pass ε β) :
    document.perform (pass.bind next) =
      (document.perform (next result)).after (document.perform pass).steps := by
  simp only [perform]
  rw [Pass.run_bind, Activity.bind_of_ok ok]

/-- The outcome of a sequence whose first part succeeds is that of the rest. -/
theorem outcome_bind {pass : Pass ε α} {result : α}
    (ok : (document.perform pass).outcome = .ok result) (next : α → Pass ε β) :
    (document.perform (pass.bind next)).outcome =
      (document.perform (next result)).outcome := by
  rw [perform_bind document ok, Transcript.outcome_after]

/-- A sequence that succeeds consists of parts that succeed. -/
theorem ok_of_bind {pass : Pass ε α} {next : α → Pass ε β} {last : β}
    (ok : (document.perform (pass.bind next)).outcome = .ok last) :
    ∃ result, (document.perform pass).outcome = .ok result ∧
      (document.perform (next result)).outcome = .ok last := by
  simp only [perform] at ok ⊢
  rw [Pass.run_bind] at ok
  exact Activity.ok_of_bind ok

end Document

end CriticalCss
