import CriticalCss.Proofs.Perform

/-!
# What activities leave alone

An activity keeps a view of the state if it ends in a state that looks the same, and takes
only steps of a certain kind.  Whatever is put together from such activities is such an
activity.
-/

namespace CriticalCss

variable {σ τ ρ α β : Type} {allowed : τ → Prop} {view : σ → ρ}

/-- The activity takes only steps of a kind, and the state looks the same afterwards. -/
def Activity.Keeps (allowed : τ → Prop) (view : σ → ρ) (activity : Activity σ τ α) : Prop :=
  ∀ state, (∀ step ∈ (activity state).steps, allowed step) ∧
    view (activity state).state = view state

/-- Tidying up takes only steps of a kind, and the state looks the same afterwards. -/
def Tidying.Keeps (allowed : τ → Prop) (view : σ → ρ) (tidying : Tidying σ τ) : Prop :=
  ∀ state, (∀ step ∈ (tidying state).1, allowed step) ∧ view (tidying state).2 = view state

namespace Activity

variable {activity : Activity σ τ α}

theorem keeps_ofOutcome (outcome : Except Fault α) :
    (ofOutcome outcome : Activity σ τ α).Keeps allowed view :=
  fun _ => ⟨by simp [ofOutcome], rfl⟩

theorem keeps_take {step : τ} (fits : allowed step) :
    (take step : Activity σ τ Unit).Keeps allowed view :=
  fun _ => ⟨by simpa [take] using fits, rfl⟩

theorem keeps_inspect (look : σ → α) : (inspect look : Activity σ τ α).Keeps allowed view :=
  fun _ => ⟨by simp [inspect], rfl⟩

theorem keeps_update {change : σ → σ} (same : ∀ state, view (change state) = view state) :
    (update change : Activity σ τ Unit).Keeps allowed view :=
  fun state => ⟨by simp [update], same state⟩

theorem Keeps.observe {next : Except Fault α → Activity σ τ β}
    (first : activity.Keeps allowed view) (rest : ∀ outcome, (next outcome).Keeps allowed view) :
    (activity.observe next).Keeps allowed view := by
  intro state
  have ⟨firstSteps, firstView⟩ := first state
  have ⟨restSteps, restView⟩ := rest (activity state).outcome (activity state).state
  refine ⟨fun step member => ?_, restView.trans firstView⟩
  rcases List.mem_append.mp member with early | late
  · exact firstSteps step early
  · exact restSteps step late

theorem Keeps.bind {next : α → Activity σ τ β} (first : activity.Keeps allowed view)
    (rest : ∀ result, (next result).Keeps allowed view) :
    (activity.bind next).Keeps allowed view := by
  refine first.observe fun outcome => ?_
  cases outcome with
  | ok result => exact rest result
  | error fault => exact keeps_ofOutcome _

theorem keeps_each {act : β → Activity σ τ Unit} (every : ∀ member, (act member).Keeps allowed view)
    (members : List β) : (each act members).Keeps allowed view := by
  induction members with
  | nil => exact keeps_ofOutcome _
  | cons member rest ih => exact (every member).bind fun _ => ih

theorem Keeps.attempt (keeps : activity.Keeps allowed view) :
    activity.attempt.Keeps allowed view :=
  keeps.observe fun _ => keeps_ofOutcome _

theorem Keeps.heedless (keeps : activity.Keeps allowed view) :
    Tidying.Keeps allowed view activity.heedless :=
  keeps

theorem keeps_tidy {tidying : Tidying σ τ} (keeps : Tidying.Keeps allowed view tidying) :
    (tidy tidying).Keeps allowed view :=
  keeps

theorem Keeps.ensuring {tidying : Tidying σ τ} (keeps : activity.Keeps allowed view)
    (tidies : Tidying.Keeps allowed view tidying) :
    (activity.ensuring tidying).Keeps allowed view :=
  keeps.observe fun _ => (keeps_tidy tidies).observe fun _ => keeps_ofOutcome _

theorem Keeps.undoing {tidying : Tidying σ τ} (keeps : activity.Keeps allowed view)
    (tidies : Tidying.Keeps allowed view tidying) :
    (activity.undoing tidying).Keeps allowed view := by
  refine keeps.observe fun outcome => ?_
  cases outcome with
  | ok result => exact keeps_ofOutcome _
  | error fault => exact (keeps_tidy tidies).observe fun _ => keeps_ofOutcome _

theorem Keeps.mono {fewer : τ → Prop} (fits : ∀ step, fewer step → allowed step)
    (keeps : activity.Keeps fewer view) : activity.Keeps allowed view :=
  fun state => ⟨fun step member => fits step ((keeps state).1 step member), (keeps state).2⟩

/-- A state of its own is all that an activity with one changes. -/
theorem keeps_within {ω : Type} {own : ω} {inner : Activity ω τ α}
    (steps : ∀ step ∈ (inner own).steps, allowed step) :
    (within own inner : Activity σ τ α).Keeps allowed view :=
  fun _ => ⟨steps, rfl⟩

end Activity

end CriticalCss
