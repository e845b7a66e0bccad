import CriticalCss.Proofs.Perform

/-!
# How things may fail

An outcome fails only in certain ways if the fault that it may be is of a certain kind, and so does
an activity if all its outcomes do.  Whatever is put together from such activities fails only in
these ways.
-/

namespace CriticalCss

variable {σ τ α β : Type} {fits : Fault → Prop}

theorem Fault.label_of_input {fault : Fault} (input : fault.family = .input) :
    fault.label = "InputError" := by
  cases fault <;> first | rfl | simp_all [Fault.family, Fault.label]

/-- A sequence that succeeds has a first part that succeeds. -/
theorem exists_ok_of_bind {ε : Type} {first : Except ε α} {next : α → Except ε β} {result : β}
    (ok : (first >>= next) = .ok result) :
    ∃ middle, first = .ok middle ∧ next middle = .ok result := by
  cases first with
  | error fault => cases ok
  | ok middle => exact ⟨middle, rfl, ok⟩

/-- A sequence that fails has a part that fails. -/
theorem error_of_bind {ε : Type} {first : Except ε α} {next : α → Except ε β} {fault : ε}
    (failed : (first >>= next) = .error fault) :
    first = .error fault ∨ ∃ middle, first = .ok middle ∧ next middle = .error fault := by
  cases first with
  | error other => exact .inl (by cases failed; rfl)
  | ok middle => exact .inr ⟨middle, rfl, failed⟩

/-- The first item that fails makes a sequence of items fail. -/
theorem mapM_eq_error_iff {ε : Type} {act : α → Except ε β} {items : List α} {fault : ε} :
    items.mapM act = .error fault ↔ ∃ front item back, items = front ++ item :: back ∧
      (∀ earlier ∈ front, ∃ result, act earlier = .ok result) ∧ act item = .error fault := by
  constructor
  · intro failed
    induction items with
    | nil => cases failed
    | cons first rest ih =>
        rw [List.mapM_cons] at failed
        rcases error_of_bind failed with failed | ⟨result, succeeds, failed⟩
        · exact ⟨[], first, rest, rfl, nofun, failed⟩
        rcases error_of_bind failed with failed | ⟨results, -, failed⟩
        · obtain ⟨front, item, back, rfl, earlier, failed⟩ := ih failed
          refine ⟨first :: front, item, back, rfl, ?_, failed⟩
          exact List.forall_mem_cons.mpr ⟨⟨result, succeeds⟩, earlier⟩
        · cases failed
  · rintro ⟨front, item, back, rfl, earlier, failed⟩
    induction front with
    | nil =>
        rw [List.nil_append, List.mapM_cons, failed]
        rfl
    | cons first front ih =>
        obtain ⟨⟨result, succeeds⟩, earlier⟩ := List.forall_mem_cons.mp earlier
        rw [List.cons_append, List.mapM_cons, succeeds]
        change (List.mapM act (front ++ item :: back) >>= _) = _
        rw [ih earlier]
        rfl

/-- An outcome, if it is a fault, is one of a kind. -/
def FailsWith (fits : Fault → Prop) (outcome : Except Fault α) : Prop :=
  ∀ fault, outcome = .error fault → fits fault

namespace FailsWith

theorem ok (result : α) : FailsWith fits (.ok result) := by
  rintro fault ⟨⟩

theorem error {fault : Fault} (fit : fits fault) :
    FailsWith fits (.error fault : Except Fault α) := by
  rintro other ⟨⟩
  exact fit

theorem bind {outcome : Except Fault α} {next : α → Except Fault β}
    (first : FailsWith fits outcome) (rest : ∀ result, FailsWith fits (next result)) :
    FailsWith fits (outcome >>= next) := by
  cases outcome with
  | ok result => exact rest result
  | error fault => exact .error (first fault rfl)

/-- Items are gone through one by one until one of them fails. -/
theorem mapM {act : α → Except Fault β} {items : List α}
    (each : ∀ item ∈ items, FailsWith fits (act item)) : FailsWith fits (items.mapM act) := by
  intro fault failed
  obtain ⟨front, item, back, rfl, -, failed⟩ := mapM_eq_error_iff.mp failed
  exact each item (by simp) fault failed

theorem mono {wider : Fault → Prop} {outcome : Except Fault α} (fails : FailsWith fits outcome)
    (wide : ∀ fault, fits fault → wider fault) : FailsWith wider outcome :=
  fun fault failed => wide fault (fails fault failed)

end FailsWith

namespace Activity

/-- The activity, if it ends with a fault, ends with one of a kind. -/
def FailsWith (fits : Fault → Prop) (activity : Activity σ τ α) : Prop :=
  ∀ state, CriticalCss.FailsWith fits (activity state).outcome

namespace FailsWith

variable {activity : Activity σ τ α}

theorem ofOutcome {outcome : Except Fault α} (fails : CriticalCss.FailsWith fits outcome) :
    (ofOutcome outcome : Activity σ τ α).FailsWith fits :=
  fun _ => fails

theorem fail {fault : Fault} (fit : fits fault) :
    (fail fault : Activity σ τ α).FailsWith fits :=
  ofOutcome (.error fit)

theorem take (step : τ) : (take step : Activity σ τ Unit).FailsWith fits :=
  fun _ => .ok ()

theorem inspect (view : σ → α) : (inspect view : Activity σ τ α).FailsWith fits :=
  fun state => .ok (view state)

theorem update (change : σ → σ) : (update change : Activity σ τ Unit).FailsWith fits :=
  fun _ => .ok ()

theorem tidy (tidying : Tidying σ τ) : (tidy tidying).FailsWith fits :=
  fun _ => .ok ()

theorem observe {kind : Fault → Prop} {next : Except Fault α → Activity σ τ β}
    (first : activity.FailsWith kind)
    (rest : ∀ outcome, CriticalCss.FailsWith kind outcome → (next outcome).FailsWith fits) :
    (activity.observe next).FailsWith fits :=
  fun state => rest _ (first state) (activity state).state

theorem bind {next : α → Activity σ τ β} (first : activity.FailsWith fits)
    (rest : ∀ result, (next result).FailsWith fits) : (activity.bind next).FailsWith fits := by
  refine first.observe ?_
  intro outcome fails
  cases outcome with
  | ok result => exact rest result
  | error fault => exact fail (fails fault rfl)

theorem ensuring (fails : activity.FailsWith fits) (tidying : Tidying σ τ) :
    (activity.ensuring tidying).FailsWith fits :=
  fun state => fails state

theorem undoing (fails : activity.FailsWith fits) (tidying : Tidying σ τ) :
    (activity.undoing tidying).FailsWith fits := by
  intro state
  rw [undoing_outcome]
  exact fails state

theorem mono {wider : Fault → Prop} (fails : activity.FailsWith fits)
    (wide : ∀ fault, fits fault → wider fault) : activity.FailsWith wider :=
  fun state => (fails state).mono wide

end FailsWith

end Activity

end CriticalCss
