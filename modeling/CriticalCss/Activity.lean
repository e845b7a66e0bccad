import CriticalCss.Fault

/-!
# Activities

An activity is carried out in a state.  It takes steps, which are recorded, changes the state, and
ends with a result or a fault; the steps before a fault stay taken.  Tidying up is an activity that
cannot fail.
-/

namespace CriticalCss

/-- What carrying out an activity gives. -/
structure Transcript (σ τ α : Type) where
  outcome : Except Fault α
  steps : List τ
  state : σ

/-- A computation that takes steps of type `τ` in states of type `σ` and ends with a result of type
`α` or a fault. -/
def Activity (σ τ α : Type) : Type := σ → Transcript σ τ α

/-- What tidying up does: it takes steps and changes the state. -/
abbrev Tidying (σ τ : Type) : Type := σ → List τ × σ

/-- A transcript with steps before it. -/
def Transcript.after {σ τ α : Type} (earlier : List τ) (transcript : Transcript σ τ α) :
    Transcript σ τ α :=
  { transcript with steps := earlier ++ transcript.steps }

namespace Activity

variable {σ τ α β : Type}

/-- Ends with an outcome. -/
def ofOutcome (outcome : Except Fault α) : Activity σ τ α := fun state => ⟨outcome, [], state⟩

/-- Goes on with the outcome of an activity, whatever it is. -/
def observe (activity : Activity σ τ α) (next : Except Fault α → Activity σ τ β) :
    Activity σ τ β := fun state =>
  let first := activity state
  (next first.outcome first.state).after first.steps

/-- Goes on with the result of an activity; a fault ends it all. -/
def bind (activity : Activity σ τ α) (next : α → Activity σ τ β) : Activity σ τ β :=
  activity.observe fun
    | .ok result => next result
    | .error fault => ofOutcome (.error fault)

instance : Monad (Activity σ τ) where
  pure result := ofOutcome (.ok result)
  bind := bind

/-- Ends with a fault. -/
def fail (fault : Fault) : Activity σ τ α := ofOutcome (.error fault)

/-- The outcome of an activity as its result. -/
def attempt (activity : Activity σ τ α) : Activity σ τ (Except Fault α) :=
  activity.observe fun outcome => ofOutcome (.ok outcome)

/-- Takes a step. -/
def take (step : τ) : Activity σ τ Unit := fun state => ⟨.ok (), [step], state⟩

/-- Something that depends on the state. -/
def inspect (view : σ → α) : Activity σ τ α := fun state => ⟨.ok (view state), [], state⟩

/-- Changes the state. -/
def update (change : σ → σ) : Activity σ τ Unit := fun state => ⟨.ok (), [], change state⟩

/-- Does something for every member of a list, in order. -/
def each (act : β → Activity σ τ Unit) : List β → Activity σ τ Unit
  | [] => pure ()
  | member :: rest => (act member).bind fun _ => each act rest

/-- Carries out an activity with a state of its own. -/
def within {ρ : Type} (own : ρ) (activity : Activity ρ τ α) : Activity σ τ α := fun state =>
  let inner := activity own
  ⟨inner.outcome, inner.steps, state⟩

/-- An activity whose outcome does not count. -/
def heedless (activity : Activity σ τ α) : Tidying σ τ := fun state =>
  let transcript := activity state
  (transcript.steps, transcript.state)

/-- Tidies up. -/
def tidy (tidying : Tidying σ τ) : Activity σ τ Unit := fun state =>
  let (steps, state) := tidying state
  ⟨.ok (), steps, state⟩

/-- Tidies up behind an activity, however it ends. -/
def ensuring (activity : Activity σ τ α) (tidying : Tidying σ τ) : Activity σ τ α :=
  activity.observe fun outcome => (tidy tidying).observe fun _ => ofOutcome outcome

/-- Tidies up behind an activity that ends with a fault. -/
def undoing (activity : Activity σ τ α) (tidying : Tidying σ τ) : Activity σ τ α :=
  activity.observe fun
    | .ok result => ofOutcome (.ok result)
    | .error fault => (tidy tidying).observe fun _ => ofOutcome (.error fault)

@[simp] theorem pure_eq (result : α) :
    (pure result : Activity σ τ α) = ofOutcome (.ok result) := rfl

@[simp] theorem bind_eq (activity : Activity σ τ α) (next : α → Activity σ τ β) :
    activity >>= next = activity.bind next := rfl

@[simp] theorem observe_ofOutcome (outcome : Except Fault α)
    (next : Except Fault α → Activity σ τ β) :
    (ofOutcome outcome).observe next = next outcome := rfl

theorem observe_assoc {γ : Type} (activity : Activity σ τ α)
    (next : Except Fault α → Activity σ τ β) (last : Except Fault β → Activity σ τ γ) :
    (activity.observe next).observe last =
      activity.observe fun outcome => (next outcome).observe last := by
  funext state
  simp [observe, Transcript.after]

end Activity

end CriticalCss
