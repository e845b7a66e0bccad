import CriticalCss.Proofs.Browser.Navigation
import Mathlib.Data.List.Infix

/-!
# What a session opens and closes

Which attempts of a session to open its parts succeed is up to the machine, so what a run opens and
closes is read off its calls together with what the machine has in store.  The machine may be
another one from one request to the next, so every step of a run is told with the machine that
serves it.  An attempt to open a part either opens it or fails and opens nothing, however often a
launch is repeated on the way; a sequence of attempts opens the first of its parts up to some point,
and all of them if it succeeds.
-/

namespace CriticalCss.Browser

open Activity

/-- A part of a session is opened or closed. -/
inductive Movement where
  | opened (part : Part)
  | closed (part : Part)
  deriving DecidableEq

namespace Opened

/-- What is open after a movement. -/
def move (opened : Opened) : Movement → Opened
  | .opened part => opened.set true part
  | .closed part => opened.set false part

/-- A part is open only inside the part that it needs. -/
def IsNested (opened : Opened) : Prop :=
  (opened.has .page = true → opened.has .context = true) ∧
    (opened.has .context = true → opened.has .browser = true) ∧
    (opened.has .browser = true → opened.has .driver = true)

instance (opened : Opened) : Decidable opened.IsNested :=
  inferInstanceAs (Decidable (_ ∧ _ ∧ _))

theorem set_eq_self {opened : Opened} {part : Part} {isOpen : Bool}
    (same : opened.has part = isOpen) : opened.set isOpen part = opened := by
  subst same
  cases part <;> rfl

end Opened

/-! ## Movements of a run -/

namespace Step

/-- What a step opens or closes: an attempt to open a part opens it unless it fails, and what
comes of the next launch stands first among `launches`. -/
def movement? (machine : Machine) (launches : List (Option String)) : Step → Option Movement
  | .called .start => if machine.driverFault.isNone then some (.opened .driver) else none
  | .called (.launch _) => if launches.head?.join.isNone then some (.opened .browser) else none
  | .called (.newContext _) =>
    if machine.contextFault.isNone then some (.opened .context) else none
  | .called .newPage => if machine.pageFault.isNone then some (.opened .page) else none
  | .called (.close part) => some (.closed part)
  | _ => none

/-- What comes of the launches after a step. -/
def launchesLeft (launches : List (Option String)) : Step → List (Option String)
  | .called (.launch _) => launches.tail
  | _ => launches

/-- The step is no attempt to open or to close a part. -/
def IsStill : Step → Prop
  | .called .start | .called (.launch _) | .called (.newContext _) | .called .newPage
  | .called (.close _) => False
  | _ => True

theorem IsStill.movement?_eq_none {step : Step} (still : step.IsStill) (machine : Machine)
    (launches : List (Option String)) : step.movement? machine launches = none := by
  simp only [IsStill] at still
  simp only [movement?]
  split at still <;> simp_all

theorem IsStill.launchesLeft_eq {step : Step} (still : step.IsStill)
    (launches : List (Option String)) : step.launchesLeft launches = launches := by
  simp only [IsStill] at still
  rw [launchesLeft]
  split at still <;> simp_all

theorem isStill_of_isNoise {step : Step} (noise : step.isNoise = true) : step.IsStill := by
  simp only [isNoise] at noise
  split at noise
  all_goals trivial

end Step

/-- Steps with the one machine that serves them all. -/
def Machine.serving (machine : Machine) (steps : List Step) : List (Machine × Step) :=
  steps.map (machine, ·)

theorem Machine.serving_append (machine : Machine) (earlier later : List Step) :
    machine.serving (earlier ++ later) = machine.serving earlier ++ machine.serving later :=
  List.map_append

/-- What is opened and closed along steps, each served by a machine. -/
def movements : List (Option String) → List (Machine × Step) → List Movement
  | _, [] => []
  | launches, (machine, step) :: rest =>
    (step.movement? machine launches).toList ++ movements (step.launchesLeft launches) rest

section

variable {α β : Type} {machine : Machine} {state : State} {settings : Settings}

/-- Steps that lead from a state to another have opened and closed this, and the state that they
lead to accounts for it. -/
structure Moves (state : State) (steps : List (Machine × Step)) (next : State)
    (moved : List Movement) : Prop where
  movements : ∀ later, movements state.launches (steps ++ later) =
    moved ++ movements next.launches later
  opened : next.opened = moved.foldl Opened.move state.opened

/-- What has been carried out in a state has opened and closed this. -/
abbrev Yields (machine : Machine) (state : State) (transcript : Transcript State Step α)
    (moved : List Movement) : Prop :=
  Moves state (machine.serving transcript.steps) transcript.state moved

/-- Earlier movements come before later ones. -/
theorem Moves.append {first next last : State} {earlier later : List (Machine × Step)}
    {before after : List Movement} (former : Moves first earlier next before)
    (latter : Moves next later last after) :
    Moves first (earlier ++ later) last (before ++ after) := by
  constructor
  · intro rest
    rw [List.append_assoc, former.movements, latter.movements, List.append_assoc]
  · rw [latter.opened, former.opened, List.foldl_append]

/-- What is carried out after something else moves after it. -/
theorem Yields.append {first : Transcript State Step α} {second : Transcript State Step β}
    {before after : List Movement} (former : Yields machine state first before)
    (latter : Yields machine first.state second after) :
    Yields machine state (second.after first.steps) (before ++ after) := by
  rw [Yields, Transcript.steps_after, machine.serving_append]
  exact Moves.append former latter

theorem movements_serving_append_of_still {steps : List Step}
    (still : ∀ step ∈ steps, step.IsStill) (launches : List (Option String))
    (later : List (Machine × Step)) :
    movements launches (machine.serving steps ++ later) = movements launches later := by
  induction steps with
  | nil => rfl
  | cons step rest ih =>
      have stillFirst := still step (by simp)
      have others := ih fun other member => still other (by simp [member])
      change (step.movement? machine launches).toList ++
        movements (step.launchesLeft launches) (machine.serving rest ++ later) = _
      rw [stillFirst.movement?_eq_none, stillFirst.launchesLeft_eq, others]
      rfl

/-- Whoever is still moves nothing. -/
theorem moves_of_still {steps : List Step} {next : State} (still : ∀ step ∈ steps, step.IsStill)
    (launches : next.launches = state.launches) (opened : next.opened = state.opened) :
    Moves state (machine.serving steps) next [] := by
  constructor
  · intro later
    rw [launches]
    exact movements_serving_append_of_still still _ later
  · exact opened

/-- What is left alone by whoever is still: the launches in store, and what is open. -/
def State.standing (state : State) : List (Option String) × Opened :=
  (state.launches, state.opened)

theorem moves_of_keeps {activity : Deed α}
    (keeps : activity.Keeps Step.IsStill State.standing) (state : State) :
    Yields machine state (activity state) [] := by
  obtain ⟨still, same⟩ := keeps state
  exact moves_of_still still (congrArg Prod.fst same) (congrArg Prod.snd same)

/-! ## Opening -/

/-- An activity either opens a part and succeeds, or opens nothing and fails. -/
inductive Tries (machine : Machine) (state : State) (part : Part)
    (transcript : Transcript State Step Unit) : Prop where
  | opened : transcript.outcome = .ok () → Yields machine state transcript [.opened part] →
      Tries machine state part transcript
  | failed (fault : Fault) : transcript.outcome = .error fault → Yields machine state transcript [] →
      Tries machine state part transcript

/-- An activity opens parts in order: all of them if it succeeds, and if it fails the first of
them up to some point. -/
def Opens (machine : Machine) (parts : List Part) (activity : Deed α) : Prop :=
  ∀ state, ∃ opened, opened <+: parts ∧
    Yields machine state (activity state) (opened.map .opened) ∧
    ∀ result, (activity state).outcome = .ok result → opened = parts

theorem opens_of_tries {part : Part} {activity : Deed Unit}
    (tries : ∀ state, Tries machine state part (activity state)) :
    Opens machine [part] activity := by
  intro state
  cases tries state with
  | opened ok moves => exact ⟨[part], List.prefix_refl _, moves, fun _ _ => rfl⟩
  | failed fault failed moves =>
      refine ⟨[], List.nil_prefix, moves, ?_⟩
      intro result ok
      rw [failed] at ok
      cases ok

theorem opens_of_keeps {activity : Deed α}
    (keeps : activity.Keeps Step.IsStill State.standing) : Opens machine [] activity :=
  fun state => ⟨[], List.prefix_refl _, moves_of_keeps keeps state, fun _ _ => rfl⟩

theorem Opens.bind {parts others : List Part} {activity : Deed α} {next : α → Deed β}
    (first : Opens machine parts activity)
    (rest : ∀ result, Opens machine others (next result)) :
    Opens machine (parts ++ others) (activity.bind next) := by
  intro state
  obtain ⟨opened, among, moves, all⟩ := first state
  cases ends : (activity state).outcome with
  | error fault =>
      refine ⟨opened, among.trans (List.prefix_append _ _), ?_, ?_⟩
      · rw [bind_of_error ends]
        exact moves
      · intro result ok
        rw [bind_of_error ends] at ok
        cases ok
  | ok result =>
      cases all result ends
      obtain ⟨openedNext, amongNext, movesNext, allNext⟩ := rest result (activity state).state
      refine ⟨parts ++ openedNext, List.prefix_append_right_inj _ |>.mpr amongNext, ?_, ?_⟩
      · rw [bind_of_ok ends, List.map_append]
        exact Yields.append moves movesNext
      · intro last ok
        rw [bind_of_ok ends, Transcript.outcome_after] at ok
        rw [allNext last ok]

/-- An attempt to open a part: a call, and a change of the state unless there is a fault. -/
def openPart (request : Call) (fault : Option String) (change : State → State) : Deed Unit :=
  (call request).bind fun _ => (succeedUnless fault).bind fun _ => update change

theorem openPart_bind (request : Call) (fault : Option String) (change : State → State)
    (next : Unit → Deed α) :
    (openPart request fault change).bind next =
      (call request).bind fun _ => (succeedUnless fault).bind fun _ =>
        (update change).bind next := by
  simp only [openPart, Activity.bind_assoc]

theorem openPart_tries {request : Call} {fault : Option String} {change : State → State}
    {part : Part}
    (opens : ∀ launches, Step.movement? machine launches (.called request) =
      if fault.isNone then some (.opened part) else none)
    (leaves : ∀ launches, Step.launchesLeft launches (.called request) = launches)
    (changes : ∀ state, (change state).launches = state.launches ∧
      (change state).opened = state.opened.set true part) (state : State) :
    Tries machine state part (openPart request fault change state) := by
  cases fault with
  | none =>
      refine .opened rfl ⟨fun later => ?_, (changes state).2⟩
      change (Step.movement? machine state.launches (.called request)).toList ++
        movements (Step.launchesLeft state.launches (.called request)) later =
          [.opened part] ++ movements (change state).launches later
      rw [opens, leaves, (changes state).1]
      rfl
  | some text =>
      refine .failed (.browserCall text) rfl ⟨fun later => ?_, rfl⟩
      change (Step.movement? machine state.launches (.called request)).toList ++
        movements (Step.launchesLeft state.launches (.called request)) later =
          [] ++ movements state.launches later
      rw [opens, leaves]
      rfl

/-- An attempt to launch the browser that succeeds leaves it open. -/
theorem attemptLaunch_of_launched (launches : state.launches.head?.join = none) :
    attemptLaunch settings state =
      ⟨.ok (), [.called (.launch settings.headless)],
        State.opening .browser { state with launches := state.launches.tail }⟩ := by
  simp only [attemptLaunch, bind_eq, Activity.bind, observe, call, take, inspect, update, launches]
  rfl

/-- An attempt to launch the browser that fails passes its report on. -/
theorem attemptLaunch_of_refused {report : String}
    (refuses : state.launches.head?.join = some report) :
    attemptLaunch settings state =
      ⟨.error (.browserCall report), [.called (.launch settings.headless)],
        { state with launches := state.launches.tail }⟩ := by
  simp only [attemptLaunch, bind_eq, Activity.bind, observe, call, take, inspect, update, refuses]
  rfl

theorem attemptLaunch_tries (settings : Settings) (state : State) :
    Tries machine state .browser (attemptLaunch settings state) := by
  cases fault : state.launches.head?.join with
  | none =>
      rw [attemptLaunch_of_launched fault]
      refine .opened rfl ⟨fun later => ?_, rfl⟩
      change (Step.movement? machine state.launches _).toList ++ _ = _
      rw [Step.movement?, fault]
      rfl
  | some text =>
      rw [attemptLaunch_of_refused fault]
      refine .failed _ rfl ⟨fun later => ?_, rfl⟩
      change (Step.movement? machine state.launches _).toList ++ _ = _
      rw [Step.movement?, fault]
      rfl

theorem install_still : install.Keeps Step.IsStill State.standing :=
  install_keeps (fun _ => trivial) trivial fun _ _ _ => rfl

namespace Tries

variable {part : Part}

theorem of_fail (fault : Fault) (state : State) :
    Tries machine state part (Activity.fail fault state) :=
  .failed fault rfl (moves_of_still (by simp [Activity.fail, ofOutcome]) rfl rfl)

/-- What moves nothing may come before an attempt. -/
theorem followed {first : Transcript State Step α} {second : Transcript State Step Unit}
    (former : Yields machine state first []) (latter : Tries machine first.state part second) :
    Tries machine state part (second.after first.steps) := by
  cases latter with
  | opened ok moves => exact .opened ok (former.append moves)
  | failed fault failed moves => exact .failed fault failed (former.append moves)

theorem bind {activity : Deed α} {next : α → Deed Unit}
    (keeps : activity.Keeps Step.IsStill State.standing)
    (rest : ∀ result state, Tries machine state part (next result state)) :
    Tries machine state part (activity.bind next state) := by
  have former : Yields machine state (activity state) [] := moves_of_keeps keeps state
  cases ends : (activity state).outcome with
  | ok result =>
      rw [bind_of_ok ends]
      exact followed former (rest result _)
  | error fault =>
      rw [bind_of_error ends]
      exact .failed fault rfl former

end Tries

/-- However often it is attempted, the browser is launched once or not at all. -/
theorem launch_tries (settings : Settings) (state : State) :
    Tries machine state .browser (launch settings state) := by
  have again : ∀ text state, Tries machine state .browser
      ((if saysMissing text then install.bind fun installed =>
          if installed then attemptLaunch settings else Activity.fail .installFailed
        else Activity.fail (.launchFailed text) : Deed Unit) state) := by
    intro text state
    split
    · apply Tries.bind install_still
      intro installed state
      cases installed with
      | true => exact attemptLaunch_tries settings state
      | false => exact .of_fail _ _
    · exact .of_fail _ _
  have attempt : Tries machine state .browser (attemptLaunch settings state) :=
    attemptLaunch_tries settings state
  simp only [launch, observe]
  cases attempt with
  | opened ok moves =>
      rw [ok]
      exact .opened rfl (moves.append (moves_of_still (by simp [ofOutcome]) rfl rfl))
  | failed fault failed moves =>
      rw [failed]
      refine Tries.followed moves ?_
      cases fault with
      | browserCall text => exact again text _
      | _ => exact .of_fail _ _

end

end CriticalCss.Browser
