import CriticalCss.Proofs.Browser.Movement
import Mathlib.Data.List.Infix
import Mathlib.Tactic.IntervalCases

/-!
# Everything that is opened is closed once

A session opens a driver, a browser, a context and a page, one inside the other.  Whatever is asked
of it, this comes in rounds: some of the parts are opened, outermost first, and the same parts are
closed, innermost first.
-/

namespace CriticalCss.Browser

open Activity

/-- All parts, from the outermost to the innermost. -/
def Part.all : List Part := [.driver, .browser, .context, .page]

/-- The parts are opened in order and closed in the opposite order. -/
def round (parts : List Part) : List Movement :=
  parts.map .opened ++ parts.reverse.map .closed

/-- Everything that is opened is closed exactly once, round by round. -/
def IsBalanced (moved : List Movement) : Prop :=
  ∃ rounds : List (List Part), (∀ parts ∈ rounds, parts <+: Part.all) ∧
    moved = rounds.flatMap round

section

variable {α β : Type} {machine : Machine} {state : State} {settings : Settings}

/-! ## Starting and stopping -/

theorem report_still (event : Event) :
    (report event : Deed Unit).Keeps Step.IsStill State.standing :=
  keeps_take trivial

theorem listen_still (subject : Subject) :
    (call (.listen subject) : Deed Unit).Keeps Step.IsStill State.standing :=
  keeps_take trivial

/-- Opens a page and starts to listen, part by part. -/
theorem openPage_opens (settings : Settings) (machine : Machine) :
    Opens machine [.context, .page] (openPage settings machine) := by
  have context : Opens machine [.context]
      (openPart (.newContext settings) machine.contextFault (State.opening .context)) :=
    opens_of_tries (openPart_tries (fun _ => rfl) (fun _ => rfl) fun _ => ⟨rfl, rfl⟩)
  have page : Opens machine [.page] (openPart .newPage machine.pageFault
      fun state => { state.opening .page with hearsPage := true }) :=
    opens_of_tries (openPart_tries (fun _ => rfl) (fun _ => rfl) fun _ => ⟨rfl, rfl⟩)
  have listens : Opens machine [] (do
      call (.listen .console)
      call (.listen .pageError)
      call (.listen .requestFailed)
      if settings.blockScripts.isTruthy then
        call .filterRequests
        Activity.update fun state => { state with filtersRequests := true } : Deed Unit) := by
    apply opens_of_keeps
    refine (listen_still _).bind fun _ => (listen_still _).bind fun _ =>
      (listen_still _).bind fun _ => ?_
    split
    · exact (keeps_take trivial).bind fun _ => keeps_update fun _ => rfl
    · exact keeps_ofOutcome _
  have together := context.bind fun _ => page.bind fun _ => listens
  simp only [openPart_bind] at together
  exact together

/-- Closing a part is one call if the part is open, and leaves it closed whether the call fails or
not. -/
theorem attempt_closePart_bind (machine : Machine) (part : Part)
    (next : Except Fault Unit → Deed α) (state : State) :
    (closePart machine part).attempt.bind next state =
      (next (closePart machine part state).outcome (state.closing part)).after
        (if state.opened.has part then [.called (.close part)] else []) := by
  cases isOpen : state.opened.has part with
  | false =>
      have stays : closePart machine part state = ⟨.ok (), [], state.closing part⟩ := by
        rw [State.closing, Opened.set_eq_self isOpen]
        simp [closePart, Activity.bind, observe, inspect, isOpen, ofOutcome, Transcript.after]
      rw [attempt, Activity.bind_observe, observe, stays]
      rfl
  | true =>
      have closes : ∃ outcome, closePart machine part state =
          ⟨outcome, [.called (.close part)], state.closing part⟩ := by
        by_cases fails : part ∈ machine.unclosable
        all_goals
          simp [closePart, Activity.bind, observe, inspect, isOpen, fails, call, take, update,
            Activity.fail, ofOutcome, Transcript.after]
      obtain ⟨outcome, closed⟩ := closes
      rw [attempt, Activity.bind_observe, observe, closed]
      rfl

/-- Stopping closes what is open, innermost first, and nothing stays open. -/
theorem stop_apply (machine : Machine) (state : State) :
    stop machine state =
      ((Part.all.reverse.filter state.opened.has).map (fun part => .called (.close part)) ++
        [.reported .sessionStopped], { state with opened := .nothing }) := by
  simp only [stop, heedless, bind_eq, attempt_closePart_bind]
  obtain ⟨_, _, _, _, ⟨driver, browser, context, page⟩, _, _⟩ := state
  cases driver <;> cases browser <;> cases context <;> cases page <;> rfl

/-- Stopping when nothing is open makes no call. -/
theorem stop_of_nothing (machine : Machine) {state : State} (closed : state.opened = .nothing) :
    stop machine state = ([.reported .sessionStopped], state) := by
  rw [stop_apply]
  obtain ⟨_, _, _, _, _, _, _⟩ := state
  cases closed
  rfl

theorem eq_take_of_prefix {parts : List Part} (among : parts <+: Part.all) :
    ∃ count ≤ 4, parts = Part.all.take count :=
  ⟨parts.length, among.length_le, List.prefix_iff_eq_take.mp among⟩

/-- What is open when some parts have been opened. -/
def Opened.of (parts : List Part) : Opened := (parts.map .opened).foldl Opened.move .nothing

theorem filter_has_of {parts : List Part} (among : parts <+: Part.all) :
    Part.all.reverse.filter (Opened.of parts).has = parts.reverse := by
  obtain ⟨count, few, rfl⟩ := eq_take_of_prefix among
  interval_cases count <;> rfl

/-- Closing what is open leaves nothing open. -/
theorem foldl_closed_of {parts : List Part} (among : parts <+: Part.all) :
    (parts.reverse.map .closed).foldl Opened.move (Opened.of parts) = .nothing := by
  obtain ⟨count, few, rfl⟩ := eq_take_of_prefix among
  interval_cases count <;> rfl

theorem movements_closes (machine : Machine) (launches : List (Option String))
    (parts : List Part) (later : List (Machine × Step)) :
    movements launches
        (machine.serving (parts.map fun part => .called (.close part)) ++ later) =
      parts.map .closed ++ movements launches later := by
  induction parts with
  | nil => rfl
  | cons part rest ih => exact congrArg (.closed part :: ·) ih

/-- Stopping closes what has been opened, in the opposite order. -/
theorem stop_moves {parts : List Part} (among : parts <+: Part.all)
    (opened : state.opened = .of parts) (machine : Machine) :
    Yields machine state (tidy (stop machine) state) (parts.reverse.map .closed) := by
  constructor
  · intro later
    simp only [tidy, stop_apply, opened, filter_has_of among, machine.serving_append,
      List.append_assoc, movements_closes]
    rfl
  · rw [opened, foldl_closed_of among]
    simp only [tidy, stop_apply]

theorem launch_openPage_opens (settings : Settings) (machine : Machine) :
    Opens machine [.browser, .context, .page]
      ((launch settings).bind fun _ => openPage settings machine) :=
  (opens_of_tries (launch_tries settings)).bind fun _ => openPage_opens settings machine

theorem start_eq (settings : Settings) (machine : Machine) :
    start settings machine =
      (openPart .start machine.driverFault (State.opening .driver)).bind fun _ =>
        (((launch settings).bind fun _ => openPage settings machine).undoing
          (stop machine)).bind fun _ => report (.sessionStarted settings.viewportWidth
            settings.viewportHeight settings.blockScripts) := by
  rw [openPart_bind]
  rfl

theorem driver_tries (machine : Machine) (state : State) : Tries machine state .driver
    (openPart .start machine.driverFault (State.opening .driver) state) := by
  apply openPart_tries
  · exact fun _ => rfl
  · exact fun _ => rfl
  · exact fun _ => ⟨rfl, rfl⟩

/-- Starts a session, and leaves open what has been opened if it fails. -/
def openAll (settings : Settings) (machine : Machine) : Deed Unit :=
  (openPart .start machine.driverFault (State.opening .driver)).bind fun _ =>
    (launch settings).bind fun _ => openPage settings machine

theorem openAll_opens (settings : Settings) (machine : Machine) :
    Opens machine Part.all (openAll settings machine) :=
  (opens_of_tries (driver_tries machine)).bind fun _ => launch_openPage_opens settings machine

/-- Starting a session ends as if nothing were closed if it fails. -/
theorem start_outcome (settings : Settings) (machine : Machine) (state : State) :
    (start settings machine state).outcome = (openAll settings machine state).outcome := by
  rw [start_eq, openAll]
  generalize openPart .start machine.driverFault (State.opening .driver) = first
  generalize (launch settings).bind (fun _ => openPage settings machine) = inside
  cases begins : (first state).outcome with
  | error fault => rw [bind_of_error begins, bind_of_error begins]
  | ok result =>
      rw [bind_of_ok begins, bind_of_ok begins, Transcript.outcome_after, Transcript.outcome_after]
      have same := undoing_outcome inside (stop machine) (first state).state
      cases ends : (inside (first state).state).outcome with
      | ok last =>
          rw [bind_of_ok (same.trans ends)]
          rfl
      | error fault => rw [bind_of_error (same.trans ends)]

/-- If nothing fails on the way, all that is left is a report. -/
theorem start_of_ok (ok : (openAll settings machine state).outcome = .ok ()) :
    start settings machine state =
      ⟨.ok (), (openAll settings machine state).steps ++ [.reported (.sessionStarted
        settings.viewportWidth settings.viewportHeight settings.blockScripts)],
        (openAll settings machine state).state⟩ := by
  obtain ⟨_, first, inside⟩ := ok_of_bind ok
  have undone := (undoing_outcome _ (stop machine) _).trans inside
  rw [start_eq, openAll, bind_of_ok first, bind_of_ok first, bind_of_ok undone,
    undoing_of_ok inside]
  simp [report, take, Transcript.after, inside]

/-- A session that could be started is open as a whole. -/
theorem start_opens (ok : (start settings machine state).outcome = .ok ()) :
    Yields machine state (start settings machine state) (Part.all.map .opened) := by
  have succeeds : (openAll settings machine state).outcome = .ok () := by
    rw [← start_outcome, ok]
  obtain ⟨opened, -, moves, all⟩ := openAll_opens settings machine state
  cases all () succeeds
  rw [start_of_ok succeeds]
  have reported : Yields machine (openAll settings machine state).state _ [] :=
    moves_of_keeps (report_still (.sessionStarted settings.viewportWidth settings.viewportHeight
      settings.blockScripts)) _
  have together := moves.append reported
  rw [List.append_nil] at together
  exact together

theorem opened_of_start (ok : (start settings machine state).outcome = .ok ()) :
    (start settings machine state).state.opened = .of Part.all := by
  rw [(start_opens ok).opened]
  rfl

/-- If a session cannot be started, whatever has been opened is closed. -/
theorem start_undoes {fault : Fault} (closed : state.opened = .nothing)
    (failed : (start settings machine state).outcome = .error fault) :
    ∃ parts, parts <+: Part.all ∧
      Yields machine state (start settings machine state) (round parts) := by
  rw [start_eq] at failed ⊢
  cases driver_tries machine state with
  | failed fault failed moves =>
      rw [bind_of_error failed]
      exact ⟨[], List.nil_prefix, moves⟩
  | opened ok moves =>
      rw [bind_of_ok ok] at failed ⊢
      obtain ⟨opened, among, movesInside, -⟩ := launch_openPage_opens settings machine
        (openPart .start machine.driverFault (State.opening .driver) state).state
      generalize openPart .start machine.driverFault (State.opening .driver) state = first at *
      generalize (launch settings).bind (fun _ => openPage settings machine) = inside at *
      have amongAll : .driver :: opened <+: Part.all := List.cons_prefix_cons.mpr ⟨rfl, among⟩
      have openedInside : (inside first.state).state.opened = .of (.driver :: opened) := by
        rw [movesInside.opened, moves.opened, closed]
        rfl
      have same := undoing_outcome inside (stop machine) first.state
      cases ends : (inside first.state).outcome with
      | ok result =>
          rw [bind_of_ok (same.trans ends)] at failed
          cases failed
      | error fault =>
          rw [bind_of_error (same.trans ends), undoing_of_error ends]
          have stopped := movesInside.append (stop_moves amongAll openedInside machine)
          exact ⟨.driver :: opened, amongAll, moves.append stopped⟩

/-! ## Every moment of a run -/

/-- At every moment of some movements the parts that are open are nested. -/
def IsNestedThroughout (moved : List Movement) : Prop :=
  ∀ past, past <+: moved → (past.foldl Opened.move .nothing).IsNested

/-- Movements after which nothing is open may be followed by others. -/
theorem IsNestedThroughout.append {earlier later : List Movement}
    (former : IsNestedThroughout earlier) (closed : earlier.foldl Opened.move .nothing = .nothing)
    (latter : IsNestedThroughout later) : IsNestedThroughout (earlier ++ later) := by
  rintro past ⟨rest, splits⟩
  rcases List.append_eq_append_iff.mp splits with ⟨left, rfl, -⟩ | ⟨reached, rfl, rfl⟩
  · exact former past (List.prefix_append _ _)
  · rw [List.foldl_append, closed]
    exact latter reached (List.prefix_append _ _)

section

variable {parts : List Part} {rounds : List (List Part)}

theorem round_isNestedThroughout (among : parts <+: Part.all) :
    IsNestedThroughout (round parts) := by
  obtain ⟨count, few, rfl⟩ := eq_take_of_prefix among
  intro past within
  have member := (List.mem_inits _ _).mpr within
  clear within
  interval_cases count <;> revert past <;> decide

theorem opened_isNestedThroughout (among : parts <+: Part.all) :
    IsNestedThroughout (parts.map .opened) :=
  fun past within =>
    round_isNestedThroughout among past (within.trans (List.prefix_append _ _))

theorem foldl_round (among : parts <+: Part.all) :
    (round parts).foldl Opened.move .nothing = .nothing := by
  rw [round, List.foldl_append]
  exact foldl_closed_of among

theorem foldl_rounds (among : ∀ parts ∈ rounds, parts <+: Part.all) :
    (rounds.flatMap round).foldl Opened.move .nothing = .nothing := by
  induction rounds with
  | nil => rfl
  | cons parts rest ih =>
      rw [List.flatMap_cons, List.foldl_append, foldl_round (among parts (by simp))]
      exact ih fun other member => among other (by simp [member])

theorem rounds_isNestedThroughout (among : ∀ parts ∈ rounds, parts <+: Part.all) :
    IsNestedThroughout (rounds.flatMap round) := by
  induction rounds with
  | nil =>
      intro past within
      rw [List.prefix_nil.mp within]
      decide
  | cons parts rest ih =>
      have first := among parts (by simp)
      rw [List.flatMap_cons]
      exact (round_isNestedThroughout first).append (foldl_round first)
        (ih fun other member => among other (by simp [member]))

end

/-- The movements of earlier steps come first. -/
theorem movements_monotone {past steps : List (Machine × Step)} (within : past <+: steps)
    (launches : List (Option String)) :
    movements launches past <+: movements launches steps := by
  obtain ⟨rest, rfl⟩ := within
  induction past generalizing launches with
  | nil => exact List.nil_prefix
  | cons step others ih =>
      rw [List.cons_append, movements, movements]
      exact (List.prefix_append_right_inj _).mpr (ih _)

/-! ## Runs of a session -/

/-- What a session has done, and where it stands, after it has been started, asked to open addresses
and stopped in some order, each time with what the machine does then.  A session that is started
must not be started again. -/
inductive Reaches (first : State) : List (Machine × Step) → State → Prop where
  | fresh : Reaches first [] first
  | start {steps : List (Machine × Step)} {state : State} (settings : Settings)
      (machine : Machine) : Reaches first steps state → state.opened.has .page = false →
      Reaches first (steps ++ machine.serving (start settings machine state).steps)
        (start settings machine state).state
  | navigate {steps : List (Machine × Step)} {state : State} (settings : Settings)
      (machine : Machine) (url : String) (course : Visit) : Reaches first steps state →
      Reaches first (steps ++ machine.serving (navigate settings url course state).steps)
        (navigate settings url course state).state
  | stop {steps : List (Machine × Step)} {state : State} (machine : Machine) :
      Reaches first steps state →
      Reaches first (steps ++ machine.serving (stop machine state).1) (stop machine state).2

/-- A session has run in rounds: what some of the rounds have opened they have closed again, and the
last of them may be half over, with some parts still open. -/
structure RunsInRounds (first : State) (steps : List (Machine × Step)) (state : State)
    (rounds : List (List Part)) (current : List Part) : Prop where
  among : ∀ parts ∈ rounds, parts <+: Part.all
  amongCurrent : current <+: Part.all
  moves : Moves first steps state (rounds.flatMap round ++ current.map .opened)

namespace RunsInRounds

variable {first next : State} {steps later : List (Machine × Step)} {rounds : List (List Part)}
  {current parts : List Part}

/-- A session that has done nothing has run in no rounds. -/
theorem nothing : RunsInRounds first [] first [] [] :=
  ⟨by simp, List.nil_prefix, fun _ => rfl, rfl⟩

theorem opened_eq (runs : RunsInRounds first steps state rounds current)
    (fresh : first.opened = .nothing) : state.opened = .of current := by
  rw [runs.moves.opened, fresh, List.foldl_append, foldl_rounds runs.among]
  rfl

/-- Closing what is open completes a round. -/
theorem close (runs : RunsInRounds first steps state rounds current)
    (closes : Moves state later next (current.reverse.map .closed)) :
    RunsInRounds first (steps ++ later) next (rounds ++ [current]) [] := by
  constructor
  · intro parts member
    rcases List.mem_append.mp member with old | new
    · exact runs.among parts old
    · rw [List.mem_singleton.mp new]
      exact runs.amongCurrent
  · exact List.nil_prefix
  · have moves := runs.moves.append closes
    simpa [round, List.append_assoc] using moves

/-- When nothing is open, parts may be opened. -/
theorem openParts (runs : RunsInRounds first steps state rounds [])
    (among : parts <+: Part.all) (opens : Moves state later next (parts.map .opened)) :
    RunsInRounds first (steps ++ later) next rounds parts := by
  refine ⟨runs.among, among, ?_⟩
  have moves := runs.moves.append opens
  simpa using moves

/-- When nothing is open, a whole round may follow. -/
theorem whole (runs : RunsInRounds first steps state rounds [])
    (among : parts <+: Part.all) (moves : Moves state later next (round parts)) :
    RunsInRounds first (steps ++ later) next (rounds ++ [parts]) [] := by
  constructor
  · intro other member
    rcases List.mem_append.mp member with old | new
    · exact runs.among other old
    · rw [List.mem_singleton.mp new]
      exact among
  · exact List.nil_prefix
  · have together := runs.moves.append moves
    simpa using together

/-- Whoever is still changes nothing about the rounds. -/
theorem stay (runs : RunsInRounds first steps state rounds current)
    (still : Moves state later next []) :
    RunsInRounds first (steps ++ later) next rounds current := by
  refine ⟨runs.among, runs.amongCurrent, ?_⟩
  have moves := runs.moves.append still
  simpa using moves

theorem movements_eq (runs : RunsInRounds first steps state rounds current) :
    movements first.launches steps = rounds.flatMap round ++ current.map .opened := by
  simpa [movements] using runs.moves.movements []

/-- At every moment the parts that are open are nested. -/
theorem isNestedThroughout (runs : RunsInRounds first steps state rounds current)
    {past : List (Machine × Step)} (within : past <+: steps) :
    ((movements first.launches past).foldl Opened.move .nothing).IsNested := by
  have nested := (rounds_isNestedThroughout runs.among).append (foldl_rounds runs.among)
    (opened_isNestedThroughout runs.amongCurrent)
  rw [← runs.movements_eq] at nested
  exact nested _ (movements_monotone within _)

end RunsInRounds

/-- Opening an address opens and closes no part. -/
theorem navigate_still (settings : Settings) (url : String) (course : Visit) :
    (navigate settings url course).Keeps Step.IsStill State.standing := by
  apply navigate_keeps
  · exact fun _ _ _ => trivial
  · exact fun _ => Step.isStill_of_isNoise
  · exact fun _ _ => trivial
  · exact fun _ => rfl

/-- Between what is asked of it a session is open or closed as a whole, and it has run in rounds. -/
theorem Reaches.runsInRounds {first : State} {steps : List (Machine × Step)}
    (fresh : first.opened = .nothing) (reached : Reaches first steps state) :
    ∃ rounds current, (current = [] ∨ current = Part.all) ∧
      RunsInRounds first steps state rounds current := by
  induction reached with
  | fresh => exact ⟨[], [], .inl rfl, .nothing⟩
  | @start steps state settings machine _ closed ih =>
      obtain ⟨rounds, current, whole, runs⟩ := ih
      have openedNow := runs.opened_eq fresh
      rcases whole with rfl | rfl
      · cases starts : (Browser.start settings machine state).outcome with
        | ok result =>
            have opens := start_opens starts
            exact ⟨rounds, Part.all, .inr rfl, runs.openParts (List.prefix_refl _) opens⟩
        | error fault =>
            obtain ⟨parts, among, moves⟩ := start_undoes openedNow starts
            exact ⟨rounds ++ [parts], [], .inl rfl, runs.whole among moves⟩
      · rw [openedNow] at closed
        cases closed
  | navigate settings machine url course _ ih =>
      obtain ⟨rounds, current, whole, runs⟩ := ih
      exact ⟨rounds, current, whole,
        runs.stay (moves_of_keeps (navigate_still settings url course) _)⟩
  | stop machine _ ih =>
      obtain ⟨rounds, current, -, runs⟩ := ih
      exact ⟨rounds ++ [current], [], .inl rfl,
        runs.close (stop_moves runs.amongCurrent (runs.opened_eq fresh) machine)⟩

/-- A session is settled when nothing is open, everything that was opened has been closed exactly
once, and there is nothing left to stop. -/
structure IsSettled (first : State) (steps : List (Machine × Step)) (state : State) : Prop where
  closed : state.opened = .nothing
  balanced : IsBalanced (movements first.launches steps)
  idle : ∀ machine, stop machine state = ([.reported .sessionStopped], state)

theorem RunsInRounds.isSettled {first : State} {steps : List (Machine × Step)}
    {rounds : List (List Part)} (runs : RunsInRounds first steps state rounds [])
    (fresh : first.opened = .nothing) : IsSettled first steps state := by
  have closed : state.opened = .nothing := runs.opened_eq fresh
  refine ⟨closed, ⟨rounds, runs.among, ?_⟩, fun machine => stop_of_nothing machine closed⟩
  rw [runs.movements_eq, List.map_nil, List.append_nil]

/-! ## Sessions around something that is done in them -/

/-- Whatever is still done in a session of its own, the session is opened and closed in a round. -/
theorem inSession_moves (machine : Machine) {deed : Deed α}
    (still : deed.Keeps Step.IsStill State.standing) (settings : Settings)
    (closed : state.opened = .nothing) :
    ∃ parts, parts <+: Part.all ∧
      Yields machine state (inSession settings machine deed state) (round parts) := by
  have split : inSession settings machine deed =
      (start settings machine).bind fun _ => deed.ensuring (stop machine) := rfl
  rw [split]
  cases starts : (start settings machine state).outcome with
  | error fault =>
      obtain ⟨parts, among, moves⟩ := start_undoes closed starts
      refine ⟨parts, among, ?_⟩
      rw [bind_of_error starts]
      exact moves
  | ok result =>
      refine ⟨Part.all, List.prefix_refl _, ?_⟩
      rw [bind_of_ok starts, ensuring_apply]
      have opens := start_opens starts
      have quiet : Yields machine (start settings machine state).state _ [] :=
        moves_of_keeps still _
      have openedAll : (deed (start settings machine state).state).state.opened =
          .of Part.all := by
        rw [quiet.opened, opens.opened, closed]
        rfl
      exact opens.append (quiet.append (stop_moves (List.prefix_refl _) openedAll machine))

end

end CriticalCss.Browser
