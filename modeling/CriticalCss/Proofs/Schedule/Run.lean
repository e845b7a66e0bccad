import CriticalCss.Schedule

/-!
# Runs of a schedule

A scheduled pass goes on by itself, and things happen to it from outside.  Going on changes
how far the pass has come and what became of the promise; it leaves the page, the rules and
the options alone.  What happens from outside is a script: a list of actions with their
times.
-/

namespace CriticalCss

theorem Promise.eq_pending {promise : Promise} (pending : promise.isPending = true) :
    promise = .pending := by
  cases promise with
  | pending => rfl
  | done _ | failed _ | cancelled => cases pending

/-- The next time at which the pass goes on by itself. -/
def Progression.timer? : Progression → Option Instant
  | settling due? => due?
  | asking _ due _ => some due
  | ended => none

namespace Schedule

/-! ## What a schedule keeps -/

/-- Two schedules differ at most in how far the pass has come and in what became of the
promise. -/
structure SameSetting (before after : Schedule) : Prop where
  options : after.options = before.options
  rules : after.rules = before.rules
  page : after.page = before.page
  lookupTime : after.lookupTime = before.lookupTime
  onCancel : after.onCancel = before.onCancel
  refused : after.refused = before.refused

namespace SameSetting

variable {first second third : Schedule}

theorem refl (schedule : Schedule) : SameSetting schedule schedule :=
  ⟨rfl, rfl, rfl, rfl, rfl, rfl⟩

theorem trans (earlier : SameSetting first second) (later : SameSetting second third) :
    SameSetting first third where
  options := later.options.trans earlier.options
  rules := later.rules.trans earlier.rules
  page := later.page.trans earlier.page
  lookupTime := later.lookupTime.trans earlier.lookupTime
  onCancel := later.onCancel.trans earlier.onCancel
  refused := later.refused.trans earlier.refused

end SameSetting

section

variable {schedule : Schedule}

theorem conclude_of_pending (pending : schedule.promise = .pending)
    (outcome : Except Fault (List Value)) :
    schedule.conclude outcome = { schedule with promise := .ofOutcome outcome } := by
  simp [conclude, pending, Promise.isPending, Promise.deliver]

theorem conclude_of_settled (settled : schedule.promise.isPending = false)
    (outcome : Except Fault (List Value)) : schedule.conclude outcome = schedule := by
  simp [conclude, settled]

/-- A stretch that ends the pass settles a pending promise. -/
theorem apply_of_pending (pending : schedule.promise = .pending) {stretch : Stretch}
    {outcome : Except Fault (List Value)} (ends : stretch.outcome? = some outcome) :
    schedule.apply stretch = { schedule.move stretch with promise := .ofOutcome outcome } := by
  have pendingThen : (schedule.move stretch).promise = .pending := pending
  simp only [apply, ends]
  exact conclude_of_pending pendingThen outcome

/-- A stretch changes nothing about a promise that is settled. -/
theorem apply_of_settled (settled : schedule.promise.isPending = false) (stretch : Stretch) :
    schedule.apply stretch = schedule.move stretch := by
  have settledThen : (schedule.move stretch).promise.isPending = false := settled
  unfold apply
  split
  · exact conclude_of_settled settledThen _
  · rfl

variable (schedule)

/-- A promise is asked for its state before an outcome is delivered, so it refuses none. -/
theorem conclude_sameSetting (outcome : Except Fault (List Value)) :
    SameSetting schedule (schedule.conclude outcome) := by
  cases pending : schedule.promise.isPending with
  | true =>
      rw [conclude_of_pending (Promise.eq_pending pending)]
      exact ⟨rfl, rfl, rfl, rfl, rfl, rfl⟩
  | false =>
      rw [conclude_of_settled pending]
      exact .refl schedule

theorem move_sameSetting (stretch : Stretch) : SameSetting schedule (schedule.move stretch) :=
  ⟨rfl, rfl, rfl, rfl, rfl, rfl⟩

theorem apply_sameSetting (stretch : Stretch) :
    SameSetting schedule (schedule.apply stretch) := by
  unfold apply
  split
  · exact (move_sameSetting schedule stretch).trans (conclude_sameSetting _ _)
  · exact move_sameSetting schedule stretch

@[simp] theorem conclude_progression (outcome : Except Fault (List Value)) :
    (schedule.conclude outcome).progression = schedule.progression := by
  unfold conclude
  split
  · split <;> rfl
  · rfl

@[simp] theorem conclude_history (outcome : Except Fault (List Value)) :
    (schedule.conclude outcome).history = schedule.history := by
  unfold conclude
  split
  · split <;> rfl
  · rfl

@[simp] theorem apply_progression (stretch : Stretch) :
    (schedule.apply stretch).progression = stretch.progression := by
  unfold apply
  split
  · exact conclude_progression _ _
  · rfl

@[simp] theorem apply_history (stretch : Stretch) :
    (schedule.apply stretch).history = stretch.history := by
  unfold apply
  split
  · exact conclude_history _ _
  · rfl

theorem work_sameSetting (limit : Option Instant) :
    SameSetting schedule (schedule.work limit) := by
  unfold work
  split
  · exact .refl schedule
  · exact .refl schedule
  · split
    · exact apply_sameSetting _ _
    · exact .refl schedule
  · split
    · exact apply_sameSetting _ _
    · exact .refl schedule

theorem advance_sameSetting (time : Instant) :
    SameSetting schedule (schedule.advance time) :=
  (work_sameSetting schedule (some time)).trans ⟨rfl, rfl, rfl, rfl, rfl, rfl⟩

theorem await_sameSetting : SameSetting schedule schedule.await := by
  unfold await
  split
  · exact work_sameSetting _ _
  · exact .refl schedule

/-! ## How a schedule goes on -/

variable {schedule}

/-- A schedule whose next time lies beyond the limit does not go on. -/
theorem work_of_not_due {limit : Option Instant}
    (early : ∀ time, schedule.progression.timer? = some time → isDue time limit = false) :
    schedule.work limit = schedule := by
  unfold work
  split
  · rfl
  · rfl
  next time stands => simp [early time (by simp [stands, Progression.timer?])]
  next selector time next stands => simp [early time (by simp [stands, Progression.timer?])]

theorem advance_of_not_due {moment : Instant}
    (early : ∀ time, schedule.progression.timer? = some time → moment < time) :
    schedule.advance moment = { schedule with now := moment } := by
  rw [advance, work_of_not_due fun time isNext => by simpa [isDue] using early time isNext]

theorem work_of_settling {time : Instant} {limit : Option Instant}
    (stands : schedule.progression = .settling (some time)) (due : isDue time limit = true) :
    schedule.work limit =
      schedule.apply (proceed schedule.page schedule.lookupTime limit
        (Pass.prune schedule.options schedule.rules) time
        (.reported .passStarted :: schedule.history)) := by
  simp only [work, stands, due, if_true]

theorem work_of_asking {selector : String} {time : Instant}
    {next : Except Fault (List Located) → Pass Located (List Value)} {limit : Option Instant}
    (stands : schedule.progression = .asking selector time next)
    (due : isDue time limit = true) :
    schedule.work limit =
      schedule.apply (proceed schedule.page schedule.lookupTime limit
        (next (schedule.page.query selector)) time schedule.history) := by
  simp only [work, stands, due, if_true]

end

/-! ## What happens from outside -/

namespace Action

/-- Whether an action cancels the promise. -/
def isCancel : Action → Bool
  | cancel => true
  | _ => false

/-- What an action makes of the page. -/
def onPage (page : Snapshot) : Action → Snapshot
  | insert selector boxes => page.insert selector boxes
  | remove selector => page.remove selector
  | _ => page

/-- What an action makes of the list of rules. -/
def onRules (nodes : List Value) : Action → List Value
  | addRule rule => nodes ++ [rule]
  | _ => nodes

end Action

/-- An action that does not cancel changes the page and the rules and nothing else. -/
theorem act_eq (schedule : Schedule) {action : Action} (harmless : action.isCancel = false) :
    ∃ rules, schedule.act action =
        { schedule with page := action.onPage schedule.page, rules := rules } ∧
      ∀ nodes, schedule.rules = .list nodes → rules = .list (action.onRules nodes) := by
  cases action with
  | insert _ _ | remove _ | look => exact ⟨schedule.rules, rfl, fun _ listed => listed⟩
  | addRule rule =>
      refine ⟨withRule schedule.rules rule, rfl, fun nodes listed => ?_⟩
      rw [listed]
      rfl
  | cancel => cases harmless

end Schedule

/-- What happens to a schedule from outside, and when. -/
abbrev Script : Type := List (Instant × Schedule.Action)

namespace Script

variable (script : Script)

/-- The part of a script before a time. -/
def before (time : Instant) : Script := script.filter fun entry => decide (entry.1 < time)

/-- What a script makes of the page. -/
def pageAfter (page : Snapshot) : Snapshot :=
  script.foldl (fun page entry => entry.2.onPage page) page

/-- What a script makes of the list of rules. -/
def rulesAfter (nodes : List Value) : List Value :=
  script.foldl (fun nodes entry => entry.2.onRules nodes) nodes

/-- The page at a time, if nothing but the script changes it. -/
def pageAt (page : Snapshot) (time : Instant) : Snapshot := (script.before time).pageAfter page

/-- The list of rules at a time, if nothing but the script changes it. -/
def rulesAt (nodes : List Value) (time : Instant) : List Value :=
  (script.before time).rulesAfter nodes

/-- The script happens in the order of its times, no two things at once. -/
def IsTimed : Prop := script.Pairwise fun entry later => entry.1 < later.1

/-- Nothing in the script cancels the promise. -/
def NeverCancels : Prop := ∀ entry ∈ script, entry.2.isCancel = false

instance : Decidable script.IsTimed := inferInstanceAs (Decidable (List.Pairwise _ script))

instance : Decidable script.NeverCancels :=
  inferInstanceAs (Decidable (∀ entry ∈ script, entry.2.isCancel = false))

/-- Between two neighbouring entries, what came before is what has happened so far. -/
theorem before_eq_past {past future : Script} {time : Instant}
    (earlier : ∀ entry ∈ past, entry.1 < time) (later : ∀ entry ∈ future, time ≤ entry.1) :
    Script.before (past ++ future) time = past := by
  have kept : past.filter (fun entry => decide (entry.1 < time)) = past :=
    List.filter_eq_self.mpr (by simpa using earlier)
  have dropped : future.filter (fun entry => decide (entry.1 < time)) = [] :=
    List.filter_eq_nil_iff.mpr (by simpa using later)
  rw [before, List.filter_append, kept, dropped, List.append_nil]

end Script

/-- Carries out a script. -/
def Schedule.run (schedule : Schedule) (script : Script) : Schedule :=
  script.foldl (fun schedule entry => schedule.actAt entry.1 entry.2) schedule

end CriticalCss
