import CriticalCss.Proofs.Extraction.Course

/-!
# Sessions are balanced on every path

Whatever is asked of a session, and whatever fails on the way, it closes exactly once what it has
opened, and so does every extraction.
-/

namespace CriticalCss

namespace Browser

open Activity

/-- Stopping a session settles it. -/
theorem stop_isSettled {first state : State} {steps : List (Machine × Step)}
    (reached : Reaches first steps state) (fresh : first.opened = .nothing) (machine : Machine) :
    IsSettled first (steps ++ machine.serving (stop machine state).1) (stop machine state).2 := by
  obtain ⟨rounds, current, -, runs⟩ := reached.runsInRounds fresh
  have stops : Moves state (machine.serving (stop machine state).1) (stop machine state).2
      (current.reverse.map .closed) :=
    stop_moves runs.amongCurrent (runs.opened_eq fresh) machine
  exact (runs.close stops).isSettled fresh

/-- A session that cannot be started is settled. -/
theorem start_isSettled {machine : Machine} {first state : State} {steps : List (Machine × Step)}
    (reached : Reaches first steps state) (fresh : first.opened = .nothing)
    (closed : state.opened.has .page = false) {settings : Settings} {fault : Fault}
    (failed : (start settings machine state).outcome = .error fault) :
    IsSettled first (steps ++ machine.serving (start settings machine state).steps)
      (start settings machine state).state := by
  obtain ⟨rounds, current, whole, runs⟩ := reached.runsInRounds fresh
  have openedNow := runs.opened_eq fresh
  rcases whole with rfl | rfl
  · obtain ⟨parts, among, moves⟩ := start_undoes openedNow failed
    exact (runs.whole among moves).isSettled fresh
  · rw [openedNow] at closed
    cases closed

end Browser

namespace Extraction

open Activity Browser

/-- Classifying a page opens and closes no part of a session. -/
theorem classify_still (options : Options) (content : Content) (rules : Value) :
    (classify options content rules).Keeps Step.IsStill unseen := by
  have reports : ∀ event,
      (Browser.report event : Browser.Page.Deed Unit).Keeps Step.IsStill unseen :=
    fun _ => keeps_take trivial
  have waits : (wait options.settleDelay : Browser.Page.Deed Unit).Keeps Step.IsStill unseen := by
    rw [wait]
    split
    · exact keeps_take trivial
    · exact keeps_ofOutcome _
  have prunes : ((Pass.prune options rules).run (Browser.Page.responder content)).Keeps
      Step.IsStill unseen := by
    have asks := Browser.Page.run_isAsking (Pass.prune_isUncleared options rules) content
    refine asks.mono fun step asking => ?_
    cases asking <;> trivial
  have passes := (reports (.waiting options.settleDelay)).bind fun _ => waits.bind fun _ =>
    (reports .passStarted).bind fun _ => prunes.bind fun kept =>
      (reports .passDone).bind fun _ => keeps_ofOutcome (.ok kept)
  exact passes.ensuring (Browser.Page.releaseAll_keeps (fun _ => trivial) trivial)

/-- An extraction runs one round of a session, or none. -/
theorem extract_runsInRounds (world : World) (url : String) (settings : Settings) (rules : Value)
    {first : State} (fresh : first.opened = .nothing) :
    ∃ rounds, RunsInRounds first
      (world.machine.serving (extract world url settings rules first).steps)
      (extract world url settings rules first).state rounds [] := by
  cases checked : check url settings rules with
  | error fault =>
      rw [extract_of_error checked]
      exact ⟨[], .nothing⟩
  | ok order =>
      rw [extract_of_ok checked, carryOut_apply]
      have inPage : (visitAndClassify world order).Keeps Step.IsStill State.standing :=
        (navigate_still _ _ _).bind fun _ => requirePage_keeps.bind fun _ =>
          keeps_within (classify_still order.options world.content order.rules []).1
      obtain ⟨parts, among, moves⟩ := inSession_moves world.machine inPage order.settings fresh
      rw [world.machine.serving_append]
      refine ⟨_, (RunsInRounds.nothing.whole among moves).stay (moves_of_still ?_ rfl rfl)⟩
      simp only [conclusion]
      split
      · simp [Step.IsStill]
      · simp

/-- Sessions are balanced on every path.  However a session is used, and whatever the machine does
from one time to the next, the parts that are open are nested at every moment, and it is settled
whenever it has been stopped and whenever it could not be started; a start that fails reports the
fault that it met, whatever comes of closing what had been opened.  Every extraction is settled in
the end. -/
theorem sessions_are_balanced {first : State} (fresh : first.opened = .nothing) :
    (∀ steps state, Reaches first steps state →
      (∀ past, past <+: steps →
        ((movements first.launches past).foldl Opened.move .nothing).IsNested) ∧
      state.opened = (movements first.launches steps).foldl Opened.move .nothing ∧
      ∀ machine,
        IsSettled first (steps ++ machine.serving (stop machine state).1)
          (stop machine state).2 ∧
        ∀ settings fault, state.opened.has .page = false →
          (start settings machine state).outcome = .error fault →
          IsSettled first (steps ++ machine.serving (start settings machine state).steps)
              (start settings machine state).state ∧
            (openAll settings machine state).outcome = .error fault ∧
            ∀ unclosable,
              (start settings { machine with unclosable := unclosable } state).outcome =
                .error fault) ∧
    ∀ world url settings rules, ∃ ran, extract world url settings rules first = ran ∧
      IsSettled first (world.machine.serving ran.steps) ran.state ∧
      ∀ past, past <+: world.machine.serving ran.steps →
        ((movements first.launches past).foldl Opened.move .nothing).IsNested := by
  constructor
  · intro steps state reached
    obtain ⟨rounds, current, -, runs⟩ := reached.runsInRounds fresh
    refine ⟨fun past => runs.isNestedThroughout, ?_, fun machine => ?_⟩
    · rw [runs.moves.opened, runs.movements_eq, fresh]
    · refine ⟨stop_isSettled reached fresh machine, ?_⟩
      intro settings fault closed failed
      have original : (openAll settings machine state).outcome = .error fault := by
        rw [← start_outcome, failed]
      refine ⟨start_isSettled reached fresh closed failed, original, ?_⟩
      intro unclosable
      rw [start_outcome]
      exact original
  · intro world url settings rules
    obtain ⟨rounds, runs⟩ := extract_runsInRounds world url settings rules fresh
    exact ⟨_, rfl, runs.isSettled fresh, fun past => runs.isNestedThroughout⟩

/-- A machine on which no page can be opened, and on which neither a browser nor a context can be
closed. -/
def frailMachine : Machine := ⟨none, none, some "Target crashed", [.browser, .context]⟩

/-- The browser is missing at first, and then it is installed. -/
def unprepared : State := .initial [some "Executable doesn't exist"] [.finished (.whole 5) 0 []]

/-- The report of the call that has failed, if one has. -/
def callReport? : Except Fault Unit → Option String
  | .error (.browserCall report) => some report
  | _ => none

theorem eq_of_callReport? {outcome : Except Fault Unit} {report : String}
    (reported : callReport? outcome = some report) : outcome = .error (.browserCall report) := by
  simp only [callReport?] at reported
  split at reported
  · rw [Option.some.inj reported]
  · cases reported

theorem frailMachine_start_fails :
    (start .standard frailMachine unprepared).outcome = .error (.browserCall "Target crashed") :=
  eq_of_callReport? (by decide +kernel)

/-- What is left of a start on the frail machine. -/
def shaken : State := (start .standard frailMachine unprepared).state

/-- A session is started again on a machine on which nothing fails, and stopped on the frail one. -/
theorem frailMachine_is_balanced :
    unprepared.opened = .nothing ∧
      (start .standard frailMachine unprepared).outcome = .error (.browserCall "Target crashed") ∧
      IsSettled unprepared (frailMachine.serving (start .standard frailMachine unprepared).steps)
        shaken ∧
      (∀ unclosable, (start .standard { frailMachine with unclosable := unclosable }
        unprepared).outcome = .error (.browserCall "Target crashed")) ∧
      (start .standard soundMachine shaken).state.opened.has .page = true ∧
      IsSettled unprepared
        (frailMachine.serving (start .standard frailMachine unprepared).steps ++
          soundMachine.serving (start .standard soundMachine shaken).steps ++
          frailMachine.serving (stop frailMachine (start .standard soundMachine shaken).state).1)
        (stop frailMachine (start .standard soundMachine shaken).state).2 := by
  have balanced := (@sessions_are_balanced unprepared rfl).1
  obtain ⟨-, -, failing⟩ := balanced [] unprepared .fresh
  obtain ⟨settled, -, regardless⟩ := (failing frailMachine).2 _ _ rfl frailMachine_start_fails
  have tried : Reaches unprepared
      (frailMachine.serving (start .standard frailMachine unprepared).steps) shaken :=
    .start .standard frailMachine .fresh rfl
  have closed : shaken.opened.has .page = false := by
    rw [shaken, settled.closed]
    rfl
  obtain ⟨-, -, restarted⟩ := balanced _ _ (tried.start .standard soundMachine closed)
  exact ⟨rfl, frailMachine_start_fails, settled, regardless, by decide +kernel,
    (restarted frailMachine).1⟩

end Extraction

end CriticalCss
