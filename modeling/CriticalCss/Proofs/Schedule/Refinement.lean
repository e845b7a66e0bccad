import CriticalCss.Proofs.Criticality
import CriticalCss.Proofs.Schedule.Run

/-!
# A scheduled pass is the plain pass over a moving page

While a pass waits, the page and the list of rules may change under it.  Nothing of that is
seen but what stands at a few moments: the list of rules when the delay is over, and the
page when the answer to a look-up comes.  So the pass can be replayed without any clock, on
a series of pages of which each answers one look-up.

The invariant of a run says that the pass so far and its rest together make the replayed
pass.
-/

namespace CriticalCss

/-- A series of pages, one for each look-up; the state counts the look-ups so far. -/
def Snapshot.series (pages : Nat → Snapshot) : Responder Nat (PassStep Located) Located where
  query selector := fun asked =>
    ⟨(pages (asked + 1)).query selector, [.queried selector], asked + 1⟩
  top clear element := fun asked => ⟨element.box.top, [.measured clear element], asked⟩
  position element := fun asked => ⟨element.box.position, [.positioned element], asked⟩
  report := .reported

namespace Schedule

/-- When the answer to a look-up comes, if the first look-up starts at a given time. -/
def answerTime (start lookupTime : Instant) (count : Nat) : Instant :=
  start + count * lookupTime

theorem answerTime_zero (start lookupTime : Instant) :
    answerTime start lookupTime 0 = start := by
  simp [answerTime]

theorem answerTime_succ (start lookupTime : Instant) (count : Nat) :
    answerTime start lookupTime (count + 1) =
      answerTime start lookupTime count + lookupTime := by
  simp only [answerTime, Int.natCast_succ, Int.add_mul, Int.one_mul, Int.add_assoc]

theorem answerTime_mono {start lookupTime : Instant} (forward : 0 ≤ lookupTime)
    {count later : Nat} (order : count ≤ later) :
    answerTime start lookupTime count ≤ answerTime start lookupTime later := by
  have growth : (count : Int) * lookupTime ≤ later * lookupTime :=
    Int.mul_le_mul_of_nonneg_right (by exact_mod_cast order) forward
  simpa [answerTime] using growth

theorem start_le_answerTime {start lookupTime : Instant} (forward : 0 ≤ lookupTime)
    (count : Nat) : start ≤ answerTime start lookupTime count := by
  have order := @answerTime_mono start lookupTime forward 0 count (Nat.zero_le count)
  rwa [answerTime_zero] at order

/-! ## One stretch -/

section

variable {pages : Nat → Snapshot} {start lookupTime : Instant} {limit : Option Instant}
variable {whole : Transcript Nat (PassStep Located) (List Value)}
variable {history : List (PassStep Located)}

/-- A stretch follows a replayed pass: it comes to its end with all its steps, or it waits
for an answer beyond the limit, and the rest of the replayed pass goes on from there. -/
inductive Follows (pages : Nat → Snapshot) (start lookupTime : Instant)
    (limit : Option Instant) (whole : Transcript Nat (PassStep Located) (List Value))
    (history : List (PassStep Located)) : Stretch → Prop where
  | ended {now : Instant} :
      Follows pages start lookupTime limit whole history
        ⟨now, .ended, some whole.outcome,
          closing whole.outcome ++ (whole.steps.reverse ++ history)⟩
  | asking {now : Instant} {selector : String}
      {next : Except Fault (List Located) → Pass Located (List Value)} {asked : Nat}
      (steps : List (PassStep Located)) :
      isDue (answerTime start lookupTime (asked + 1)) limit = false →
      whole = ((next ((pages (asked + 1)).query selector)).run (Snapshot.series pages)
        (asked + 1)).after steps →
      Follows pages start lookupTime limit whole history
        ⟨now, .asking selector (answerTime start lookupTime (asked + 1)) next, none,
          steps.reverse ++ history⟩

/-- A stretch that follows the rest of a pass follows the pass. -/
theorem Follows.after {stretch : Stretch} (steps : List (PassStep Located))
    (follows : Follows pages start lookupTime limit whole (steps.reverse ++ history) stretch) :
    Follows pages start lookupTime limit (whole.after steps) history stretch := by
  cases follows with
  | ended =>
      rw [← List.append_assoc whole.steps.reverse, ← List.reverse_append]
      exact .ended
  | asking _ early rest =>
      rw [← List.append_assoc, ← List.reverse_append]
      exact .asking _ early (by rw [rest, Transcript.after_after])

/-- Going on with a pass follows its replay, if the page stands still up to the limit. -/
theorem proceed_follows {page : Snapshot} (pass : Pass Located (List Value)) {asked : Nat}
    (still : ∀ count, asked < count →
      isDue (answerTime start lookupTime count) limit = true → pages count = page) :
    Follows pages start lookupTime limit (pass.run (Snapshot.series pages) asked) history
      (proceed page lookupTime limit pass (answerTime start lookupTime asked) history) := by
  induction pass generalizing asked history with
  | done outcome => exact .ended
  | note event rest ih => exact (ih still).after [.reported event]
  | top clear element next ih => exact (ih _ still).after [.measured clear element]
  | position element next ih => exact (ih _ still).after [.positioned element]
  | query selector next ih =>
      simp only [proceed]
      rw [← answerTime_succ]
      cases due : isDue (answerTime start lookupTime (asked + 1)) limit with
      | true =>
          have same := still (asked + 1) (Nat.lt_succ_self asked) due
          subst same
          rw [if_pos rfl]
          have rest := @ih ((pages (asked + 1)).query selector) (.queried selector :: history)
            (asked + 1) fun count later => still count (Nat.lt_of_succ_lt later)
          exact rest.after [.queried selector]
      | false => exact .asking [.queried selector] due rfl

end

/-! ## A whole run -/

/-- What a pass is scheduled with, when its delay is over, and what happens meanwhile. -/
structure Plan where
  options : Options
  nodes : List Value
  page : Snapshot
  lookupTime : Instant
  due : Instant
  script : Script

namespace Plan

variable (plan : Plan)

/-- The schedule at time zero. -/
def schedule (onCancel : OnCancel) : Schedule :=
  start plan.options (.list plan.nodes) plan.page plan.lookupTime onCancel

/-- The page at the time when the answer to a look-up comes. -/
def pages (count : Nat) : Snapshot :=
  plan.script.pageAt plan.page (answerTime plan.due plan.lookupTime count)

/-- The plain pass that the scheduled one comes to: over the list of rules as it is when the
delay is over, with each look-up answered by the page as it is when the answer comes. -/
def plainPass : Transcript Nat (PassStep Located) (List Value) :=
  (Pass.prune plan.options (.list (plan.script.rulesAt plan.nodes plan.due))).run
    (Snapshot.series plan.pages) 0

/-- What has happened when the pass begins, last thing first. -/
def opening : List (PassStep Located) :=
  [.reported .passStarted, .reported (.waiting plan.options.settleDelay)]

end Plan

/-- A schedule has gone some way through the plain pass: what happened so far and what is
left make the whole. -/
inductive Course (plan : Plan) (schedule : Schedule) : Prop where
  | settling :
      schedule.progression = .settling (some plan.due) → schedule.promise = .pending →
      schedule.history = [.reported (.waiting plan.options.settleDelay)] →
      Course plan schedule
  | asking {selector : String}
      {next : Except Fault (List Located) → Pass Located (List Value)} {asked : Nat}
      {steps : List (PassStep Located)} :
      schedule.progression =
        .asking selector (answerTime plan.due plan.lookupTime (asked + 1)) next →
      schedule.promise = .pending → schedule.history = steps.reverse ++ plan.opening →
      plan.plainPass = ((next ((plan.pages (asked + 1)).query selector)).run
        (Snapshot.series plan.pages) (asked + 1)).after steps →
      Course plan schedule
  | ended :
      schedule.progression = .ended →
      schedule.promise = .ofOutcome plan.plainPass.outcome →
      schedule.history =
        closing plan.plainPass.outcome ++ (plan.plainPass.steps.reverse ++ plan.opening) →
      Course plan schedule

/-- A stretch that follows the rest of the plain pass keeps the schedule on its course. -/
theorem Course.of_follows {plan : Plan} {schedule : Schedule} {stretch : Stretch}
    {limit : Option Instant} {rest : Transcript Nat (PassStep Located) (List Value)}
    (pending : schedule.promise = .pending) (steps : List (PassStep Located))
    (whole : plan.plainPass = rest.after steps)
    (follows : Follows plan.pages plan.due plan.lookupTime limit rest
      (steps.reverse ++ plan.opening) stretch) :
    Course plan (schedule.apply stretch) ∧
      ∀ time, (schedule.apply stretch).progression.timer? = some time →
        isDue time limit = false := by
  have followsWhole := follows.after
  rw [← whole] at followsWhole
  cases followsWhole with
  | ended =>
      rw [apply_of_pending pending rfl]
      exact ⟨.ended rfl rfl rfl, fun _ none => nomatch none⟩
  | asking steps early rest =>
      refine ⟨.asking rfl pending rfl rest, fun time isNext => ?_⟩
      cases isNext
      exact early

/-- Letting the pass go on keeps it on its course, if page and rules are those of the
plan. -/
theorem Course.work {plan : Plan} {schedule : Schedule} {limit : Option Instant}
    (course : Course plan schedule) (sameOptions : schedule.options = plan.options)
    (sameTime : schedule.lookupTime = plan.lookupTime) (forward : 0 ≤ plan.lookupTime)
    (rules : ∀ time, schedule.progression.timer? = some time → isDue time limit = true →
      schedule.rules = .list (plan.script.rulesAt plan.nodes time))
    (still : ∀ time later, schedule.progression.timer? = some time → time ≤ later →
      isDue later limit = true → plan.script.pageAt plan.page later = schedule.page) :
    Course plan (schedule.work limit) ∧
      ∀ time, (schedule.work limit).progression.timer? = some time →
        isDue time limit = false := by
  by_cases early : ∀ time, schedule.progression.timer? = some time → isDue time limit = false
  · rw [work_of_not_due early]
    exact ⟨course, early⟩
  cases course with
  | settling stands pending history =>
      have timer : schedule.progression.timer? = some plan.due := by
        rw [stands, Progression.timer?]
      have due : isDue plan.due limit = true := by simpa [timer] using early
      rw [work_of_settling stands due, sameOptions, sameTime, rules _ timer due, history]
      have follows := @proceed_follows plan.pages plan.due plan.lookupTime limit plan.opening
        schedule.page (Pass.prune plan.options (.list (plan.script.rulesAt plan.nodes plan.due)))
        0 fun count _ => still _ _ timer (start_le_answerTime forward count)
      rw [answerTime_zero] at follows
      exact Course.of_follows pending [] rfl follows
  | @asking selector next asked steps stands pending history whole =>
      have timer : schedule.progression.timer? =
          some (answerTime plan.due plan.lookupTime (asked + 1)) := by
        rw [stands, Progression.timer?]
      have due : isDue (answerTime plan.due plan.lookupTime (asked + 1)) limit = true := by
        simpa [timer] using early
      have answering : plan.pages (asked + 1) = schedule.page :=
        still _ _ timer (Int.le_refl _) due
      rw [work_of_asking stands due, sameTime, history, ← answering]
      refine Course.of_follows pending steps whole
        (proceed_follows _ fun count later isDue => ?_)
      rw [answering]
      exact still _ _ timer (answerTime_mono forward (Nat.le_of_lt later)) isDue
  | ended stands _ _ =>
      exact absurd (fun time isNext => by simp [stands, Progression.timer?] at isNext) early

/-- A schedule is on its course after a part of the script: page and rules are what that
part makes of them, and the pass goes on by itself only later. -/
structure OnCourse (plan : Plan) (past : Script) (schedule : Schedule) : Prop where
  course : Course plan schedule
  options : schedule.options = plan.options
  lookupTime : schedule.lookupTime = plan.lookupTime
  page : schedule.page = past.pageAfter plan.page
  rules : schedule.rules = .list (past.rulesAfter plan.nodes)
  patient : ∀ time, schedule.progression.timer? = some time → ∀ entry ∈ past, entry.1 < time

namespace OnCourse

variable {plan : Plan} {past future : Script} {schedule : Schedule}

theorem start (convertible : plan.options.settleDelay.hasSeconds = true)
    (delay : plan.options.settleDelay.span? = some plan.due) (onCancel : OnCancel) :
    OnCourse plan [] (plan.schedule onCancel) where
  course := .settling (by simp [Plan.schedule, Schedule.start, Progression.ofDelay, convertible,
    delay]) rfl rfl
  options := rfl
  lookupTime := rfl
  page := rfl
  rules := rfl
  patient := by simp

/-- Up to the next entry of the script, page and rules are those of the plan. -/
theorem work (onCourse : OnCourse plan past schedule) (forward : 0 ≤ plan.lookupTime)
    (split : plan.script = past ++ future) {limit : Option Instant}
    (within : ∀ time, isDue time limit = true → ∀ entry ∈ future, time ≤ entry.1) :
    Course plan (schedule.work limit) ∧
      ∀ time, (schedule.work limit).progression.timer? = some time →
        isDue time limit = false := by
  apply onCourse.course.work onCourse.options onCourse.lookupTime forward
  · intro time timer due
    rw [onCourse.rules, Script.rulesAt, split,
      Script.before_eq_past (onCourse.patient time timer) (within time due)]
  · intro time later timer order due
    have earlier : ∀ entry ∈ past, entry.1 < later := fun entry member =>
      Int.lt_of_lt_of_le (onCourse.patient time timer entry member) order
    rw [onCourse.page, Script.pageAt, split, Script.before_eq_past earlier (within later due)]

/-- Up to the time of an entry nothing later in the script has happened. -/
theorem le_of_isDue {time : Instant} {action : Action}
    (after : ∀ entry ∈ future, time < entry.1) {moment : Instant}
    (due : isDue moment (some time) = true) :
    ∀ entry ∈ (time, action) :: future, moment ≤ entry.1 := by
  intro entry member
  have inTime : moment ≤ time := by simpa [isDue] using due
  rcases List.mem_cons.mp member with rfl | later
  · exact inTime
  · exact Int.le_trans inTime (Int.le_of_lt (after entry later))

/-- An entry of the script that does not cancel leads along the course. -/
theorem actAt {time : Instant} {action : Action} (onCourse : OnCourse plan past schedule)
    (forward : 0 ≤ plan.lookupTime) (split : plan.script = past ++ (time, action) :: future)
    (timed : plan.script.IsTimed) (harmless : action.isCancel = false) :
    OnCourse plan (past ++ [(time, action)]) (schedule.actAt time action) := by
  rw [split, Script.IsTimed, List.pairwise_append, List.pairwise_cons] at timed
  obtain ⟨_, ⟨after, _⟩, ordered⟩ := timed
  obtain ⟨course, patient⟩ := onCourse.work forward split fun _ => le_of_isDue after
  have kept := advance_sameSetting schedule time
  obtain ⟨rules, acted, added⟩ := act_eq (schedule.advance time) harmless
  rw [Schedule.actAt, acted]
  refine ⟨?_, kept.options.trans onCourse.options, kept.lookupTime.trans onCourse.lookupTime,
    ?_, ?_, ?_⟩
  · cases course with
    | settling stands pending history => exact .settling stands pending history
    | asking stands pending history whole => exact .asking stands pending history whole
    | ended stands settled history => exact .ended stands settled history
  · simp only [kept.page, onCourse.page, Script.pageAfter, List.foldl_append, List.foldl_cons,
      List.foldl_nil]
  · simp only [added _ (kept.rules.trans onCourse.rules), Script.rulesAfter, List.foldl_append,
      List.foldl_cons, List.foldl_nil]
  · intro timer isNext entry member
    have beyond : time < timer := by simpa [isDue] using patient timer isNext
    rcases List.mem_append.mp member with earlier | here
    · exact Int.lt_trans (ordered entry earlier (time, action) (by simp)) beyond
    · cases List.mem_singleton.mp here
      exact beyond

/-- A whole script leads along the course. -/
theorem run (onCourse : OnCourse plan past schedule) (forward : 0 ≤ plan.lookupTime)
    (split : plan.script = past ++ future) (timed : plan.script.IsTimed)
    (uncancelled : plan.script.NeverCancels) :
    OnCourse plan plan.script (schedule.run future) := by
  induction future generalizing past schedule with
  | nil =>
      rw [List.append_nil] at split
      rwa [split]
  | cons entry rest ih =>
      have harmless := uncancelled entry (by simp [split])
      exact ih (onCourse.actAt forward split timed harmless) (by simp [split])

/-- Once nothing more happens from outside, the pass comes to its end. -/
theorem await (onCourse : OnCourse plan plan.script schedule) (forward : 0 ≤ plan.lookupTime) :
    Course plan schedule.await ∧ schedule.await.progression.timer? = none := by
  cases pending : schedule.promise.isPending with
  | true =>
      have split : plan.script = plan.script ++ [] := (List.append_nil _).symm
      have within : ∀ time, isDue time none = true → ∀ entry ∈ ([] : Script), time ≤ entry.1 := by
        simp
      obtain ⟨course, never⟩ := onCourse.work forward split within
      simp only [Schedule.await, pending, if_true]
      refine ⟨course, Option.eq_none_iff_forall_ne_some.mpr fun time isNext => ?_⟩
      exact absurd (never time isNext) (by simp [isDue])
  | false =>
      simp only [Schedule.await, pending, Bool.false_eq_true, if_false]
      refine ⟨onCourse.course, ?_⟩
      cases onCourse.course with
      | settling _ stillPending _ | asking _ stillPending _ _ =>
          simp [stillPending, Promise.isPending] at pending
      | ended stands _ _ => rw [stands, Progression.timer?]

end OnCourse

/-- Before its delay is over, a pass does nothing. -/
theorem run_of_early {past : Script} {schedule : Schedule} {due : Instant}
    (stands : schedule.progression = .settling (some due))
    (early : ∀ entry ∈ past, entry.1 < due)
    (uncancelled : past.NeverCancels) :
    (schedule.run past).progression = .settling (some due) ∧
      (schedule.run past).history = schedule.history := by
  induction past generalizing schedule with
  | nil => exact ⟨stands, rfl⟩
  | cons entry rest ih =>
      have waited : schedule.advance entry.1 = { schedule with now := entry.1 } := by
        apply advance_of_not_due
        intro time isNext
        rw [stands, Progression.timer?] at isNext
        cases isNext
        exact early entry (by simp)
      obtain ⟨rules, acted, _⟩ :=
        act_eq (schedule.advance entry.1) (uncancelled entry (by simp))
      rw [waited] at acted
      simp only [run, List.foldl_cons, actAt, waited, acted]
      exact ih stands (fun other member => early other (by simp [member]))
        fun other member => uncancelled other (by simp [member])

/-- A scheduled pass that nobody cancels asks nothing before its delay is over, and then
comes to exactly the steps and the outcome of the plain pass. -/
theorem await_eq_plainPass (plan : Plan) (onCancel : OnCancel)
    (convertible : plan.options.settleDelay.hasSeconds = true)
    (delay : plan.options.settleDelay.span? = some plan.due) (forward : 0 ≤ plan.lookupTime)
    (timed : plan.script.IsTimed) (uncancelled : plan.script.NeverCancels) :
    (∀ past future time, plan.script = past ++ future → (∀ entry ∈ past, entry.1 ≤ time) →
      time < plan.due →
        (((plan.schedule onCancel).run past).advance time).history =
          [.reported (.waiting plan.options.settleDelay)]) ∧
      ((plan.schedule onCancel).run plan.script).await.promise =
        .ofOutcome plan.plainPass.outcome ∧
      ((plan.schedule onCancel).run plan.script).await.progression = .ended ∧
      ((plan.schedule onCancel).run plan.script).await.history.reverse =
        .reported (.waiting plan.options.settleDelay) :: .reported .passStarted ::
          (plan.plainPass.steps ++ closing plan.plainPass.outcome) := by
  have onCourse := OnCourse.start convertible delay onCancel
  constructor
  · intro past future time split within early
    have stands : (plan.schedule onCancel).progression = .settling (some plan.due) := by
      simp [Plan.schedule, Schedule.start, Progression.ofDelay, convertible, delay]
    have ⟨stillStands, unchanged⟩ := run_of_early stands
      (fun entry member => Int.lt_of_le_of_lt (within entry member) early)
      fun entry member => uncancelled entry (by simp [split, member])
    rw [advance_of_not_due fun timer isNext => ?_]
    · exact unchanged
    · rw [stillStands, Progression.timer?] at isNext
      cases isNext
      exact early
  · obtain ⟨course, noTimer⟩ :=
      (onCourse.run forward (List.nil_append _).symm timed uncancelled).await forward
    cases course with
    | settling stands _ _ | asking stands _ _ _ =>
        simp [stands, Progression.timer?] at noTimer
    | ended stands settled history =>
        refine ⟨settled, stands, ?_⟩
        rw [history]
        cases plan.plainPass.outcome <;> simp [closing, Plan.opening]

/-- A pass with two look-ups.  One rule comes in time and one comes too late; the element
that the second look-up finds comes after the first. -/
def changingPlan : Plan where
  options := .plain
  nodes := [.object [("type", .text "rule"), ("selectors", .list [.text ".late", .text ".hero"])]]
  page := ⟨[], [], []⟩
  lookupTime := 10 * Binary64.unitsPerOne
  due := 100 * Binary64.unitsPerOne
  script := [
    (50 * Binary64.unitsPerOne,
      .addRule (.object [("type", .text "rule"), ("selectors", .list [.text ":root"])])),
    (115 * Binary64.unitsPerOne, .insert ".hero" [⟨.ok (.ofInt 10), .ok (.text "static")⟩]),
    (116 * Binary64.unitsPerOne, .insert ".late" [⟨.ok (.ofInt 10), .ok (.text "static")⟩]),
    (117 * Binary64.unitsPerOne, .addRule (.object [("type", .text "font-face")]))]

theorem changingPlan_await_eq_plainPass :
    changingPlan.options.settleDelay.hasSeconds = true ∧
      changingPlan.options.settleDelay.span? = some changingPlan.due ∧
      0 ≤ changingPlan.lookupTime ∧ changingPlan.script.IsTimed ∧
      changingPlan.script.NeverCancels ∧
      ((changingPlan.schedule .giveWay).run changingPlan.script).await.promise =
        .ofOutcome changingPlan.plainPass.outcome :=
  have convertible : changingPlan.options.settleDelay.hasSeconds = true := by decide +kernel
  have delay : changingPlan.options.settleDelay.span? = some changingPlan.due := by decide +kernel
  have forward : 0 ≤ changingPlan.lookupTime := by decide +kernel
  have timed : changingPlan.script.IsTimed := by decide +kernel
  have uncancelled : changingPlan.script.NeverCancels := by decide +kernel
  ⟨convertible, delay, forward, timed, uncancelled,
    (await_eq_plainPass changingPlan .giveWay convertible delay forward timed uncancelled).2.1⟩

end Schedule

end CriticalCss
