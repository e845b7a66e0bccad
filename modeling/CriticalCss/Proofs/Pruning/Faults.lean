import CriticalCss.Document
import CriticalCss.Proofs.Failing
import CriticalCss.Proofs.Pruning.Measuring

/-!
# What ends pruning with a fault

Pruning ends with a fault for one of two reasons: a value does not fit where pruning meets it, or
the page answers a question with a fault.  Every fault of the page ends pruning at once, unless it
is the refusal of a selector.
-/

namespace CriticalCss.Pass

variable {σ τ ε α β : Type} {fits : Fault → Prop}

/-- The pass ends with the fault of an answer, unless a selector is refused, and finds no faults by
itself but values that do not fit. -/
def EndsOnFault : Pass ε α → Prop
  | done outcome => FailsWith (fun fault => fault.isMisfit = true) outcome
  | note _ rest => rest.EndsOnFault
  | query _ next => (∀ elements, (next (.ok elements)).EndsOnFault) ∧
      ∀ fault, next (.error fault) = done (.error fault) ∨
        (∃ selector, fault = .invalidSelector selector) ∧ (next (.error fault)).EndsOnFault
  | top _ _ next => (∀ top, (next (.ok top)).EndsOnFault) ∧
      ∀ fault, next (.error fault) = done (.error fault)
  | position _ next => (∀ position, (next (.ok position)).EndsOnFault) ∧
      ∀ fault, next (.error fault) = done (.error fault)

theorem EndsOnFault.bind {pass : Pass ε α} {next : α → Pass ε β} (first : pass.EndsOnFault)
    (rest : ∀ result, (next result).EndsOnFault) : (pass.bind next).EndsOnFault := by
  induction pass with
  | done outcome =>
      cases outcome with
      | ok result => exact rest result
      | error fault => exact .error (first fault rfl)
  | note event _ ih => exact ih first
  | query selector answer ih =>
      obtain ⟨found, failed⟩ := first
      constructor
      · intro elements
        exact ih _ (found elements)
      · intro fault
        rcases failed fault with ends | ⟨refused, onward⟩
        · left
          simp only [ends, Pass.bind]
        · right
          exact ⟨refused, ih _ onward⟩
  | top clear element answer ih =>
      obtain ⟨measured, failed⟩ := first
      constructor
      · intro top
        exact ih _ (measured top)
      · intro fault
        simp only [failed, Pass.bind]
  | position element answer ih =>
      obtain ⟨positioned, failed⟩ := first
      constructor
      · intro position
        exact ih _ (positioned position)
      · intro fault
        simp only [failed, Pass.bind]

theorem isAboveFold_endsOnFault (height : Value) (element : ε) :
    (isAboveFold height element).EndsOnFault := by
  constructor
  · intro top
    simp only [Pass.bind]
    cases top.less height with
    | error kinds => exact .error rfl
    | ok above =>
        cases above with
        | true => exact .ok true
        | false =>
            constructor
            · intro position
              simp only [Pass.bind]
              cases position.isText "fixed" <;> exact .ok _
            · intro fault
              rfl
  · intro fault
    rfl

theorem anyAboveFold_endsOnFault (height : Value) (elements : List ε) :
    (anyAboveFold height elements).EndsOnFault := by
  induction elements with
  | nil => exact .ok false
  | cons element rest ih =>
      apply (isAboveFold_endsOnFault height element).bind
      intro above
      cases above with
      | true => exact .ok true
      | false => exact ih

theorem isCriticalText_endsOnFault (options : Options) (selector : String) :
    (isCriticalText options selector : Pass ε Bool).EndsOnFault := by
  rw [isCriticalText]
  split
  · exact .ok true
  split
  · exact .ok true
  split
  · exact .ok true
  · constructor
    · intro elements
      exact anyAboveFold_endsOnFault _ elements
    · intro fault
      cases fault with
      | invalidSelector refused => exact .inr ⟨⟨refused, rfl⟩, .ok false⟩
      | _ => exact .inl rfl

/-- Looking for a selector among the entries fails only if it is no text, which is a misfit. -/
theorem isForceIncluded_isMisfit {options : Options} {selector : Value} {fault : Fault}
    (failed : options.isForceIncluded selector = .error fault) : fault.isMisfit = true := by
  rw [Options.isForceIncluded.eq_def] at failed
  split at failed
  · cases failed
  · split at failed
    · cases failed
    · cases failed
      rfl

theorem isCritical_endsOnFault (options : Options) (selector : Value) :
    (isCritical options selector : Pass ε Bool).EndsOnFault := by
  simp only [isCritical]
  split
  next selector => exact isCriticalText_endsOnFault options selector
  · split
    · exact .error rfl
    next failed =>
      exact .error (isForceIncluded_isMisfit failed)
  · exact .error rfl

/-- Ending on faults holds of the parts of pruning. -/
theorem endsOnFault_holdsOfParts (options : Options) :
    HoldsOfParts options fun _ (pass _ : Pass ε _) => pass.EndsOnFault where
  give result := .ok result
  refuse misfit := .error misfit
  note := fun _ _ _ ends => ends
  bind := .bind
  isCritical := isCritical_endsOnFault options

/-- Pruning ends on faults. -/
theorem prune_endsOnFault (options : Options) (rules : Value) :
    (prune options rules : Pass ε (List Value)).EndsOnFault :=
  (endsOnFault_holdsOfParts options).prune rules

/-- A pass that ends on faults ends with no others than misfits and the faults of answers to
questions about what has been found. -/
theorem EndsOnFault.run_failsWith {pass : Pass ε α} {responder : Responder σ τ ε}
    {isFound : ε → Prop} {leaves : List ε → Prop} {elements : List ε} (ends : pass.EndsOnFault)
    (measures : pass.MeasuresFound leaves elements) (areFound : ∀ element ∈ elements, isFound element)
    (misfits : ∀ fault : Fault, fault.isMisfit = true → fits fault)
    (queries : ∀ selector, (responder.query selector).FailsWith fits)
    (finds : ∀ selector state, ∀ element ∈ found (responder.query selector state).outcome,
      isFound element)
    (tops : ∀ clear element, isFound element → (responder.top clear element).FailsWith fits)
    (positions : ∀ element, isFound element → (responder.position element).FailsWith fits)
    (state : σ) : FailsWith fits (pass.run responder state).outcome := by
  induction pass generalizing state elements with
  | done outcome => exact ends.mono misfits
  | note event rest ih => exact ih ends measures areFound state
  | query selector next ih =>
      obtain ⟨onward, failed⟩ := ends
      have fails := queries selector state
      have foundNow := finds selector state
      have measuresNow := measures (responder.query selector state).outcome
      simp only [run, Activity.observe, Transcript.outcome_after]
      cases reply : (responder.query selector state).outcome with
      | ok elements =>
          rw [reply] at foundNow measuresNow
          exact ih _ (onward elements) measuresNow foundNow _
      | error fault =>
          rw [reply] at fails measuresNow
          rcases failed fault with ends | ⟨-, refused⟩
          · rw [ends]
            exact .error (fails fault rfl)
          · exact ih _ refused measuresNow (by simp [found]) _
  | top clear element next ih =>
      obtain ⟨onward, failed⟩ := ends
      obtain ⟨member, measuresNow⟩ := measures
      have fails := tops clear element (areFound element member) state
      simp only [run, Activity.observe, Transcript.outcome_after]
      cases reply : (responder.top clear element state).outcome with
      | ok top => exact ih _ (onward top) (measuresNow _) areFound _
      | error fault =>
          rw [failed]
          exact .error (fails fault reply)
  | position element next ih =>
      obtain ⟨onward, failed⟩ := ends
      obtain ⟨member, measuresNow⟩ := measures
      have fails := positions element (areFound element member) state
      simp only [run, Activity.observe, Transcript.outcome_after]
      cases reply : (responder.position element state).outcome with
      | ok position => exact ih _ (onward position) (measuresNow _) areFound _
      | error fault =>
          rw [failed]
          exact .error (fails fault reply)

end CriticalCss.Pass
