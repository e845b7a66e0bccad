import CriticalCss.Proofs.Schedule.Refinement

/-!
# What a scheduled pass sees of a changing page

The end of the delay starts a pass but does not fix what it sees: each look-up is answered by
the page as it is when the answer comes.  So two pages that were alike up to the end of the
delay may still be classified differently, if one of them changes while a look-up is on its
way.  What a pass depends on are the pages at its answers, up to the last one; where look-ups
take no time, all of them come at the end of the delay, and that is the cutoff.
-/

namespace CriticalCss

/-- Whether a step looks up a selector. -/
def PassStep.isLookup {ε : Type} : PassStep ε → Bool
  | queried _ => true
  | _ => false

/-- The number of look-ups among some steps. -/
def lookups {ε : Type} (steps : List (PassStep ε)) : Nat := steps.countP PassStep.isLookup

/-- A pass on a series of pages sees no page but those of its own look-ups. -/
theorem Pass.run_series_congr {first second : Nat → Snapshot} {α : Type} (pass : Pass Located α)
    {asked : Nat}
    (agree : ∀ count, asked < count →
      count ≤ asked + lookups (pass.run (Snapshot.series first) asked).steps →
        second count = first count) :
    pass.run (Snapshot.series second) asked = pass.run (Snapshot.series first) asked := by
  induction pass generalizing asked with
  | done outcome => rfl
  | note event rest ih => exact congrArg (·.after [.reported event]) (ih agree)
  | top clear element next ih => exact congrArg (·.after [.measured clear element]) (ih _ agree)
  | position element next ih => exact congrArg (·.after [.positioned element]) (ih _ agree)
  | query selector next ih =>
      have counted : lookups ((Pass.query selector next).run (Snapshot.series first) asked).steps =
          lookups ((next ((first (asked + 1)).query selector)).run (Snapshot.series first)
            (asked + 1)).steps + 1 := by
        simp only [lookups]
        exact List.countP_cons_of_pos rfl
      rw [counted] at agree
      have here : second (asked + 1) = first (asked + 1) :=
        agree (asked + 1) (Nat.lt_succ_self asked) (by omega)
      have rest := @ih ((first (asked + 1)).query selector) (asked + 1)
        fun count later within => agree count (by omega) (by omega)
      have answered : (next ((second (asked + 1)).query selector)).run (Snapshot.series second)
            (asked + 1) =
          (next ((first (asked + 1)).query selector)).run (Snapshot.series first)
            (asked + 1) := by
        rw [here, rest]
      exact congrArg (·.after [.queried selector]) answered

namespace Script

/-- The part of a script up to a time and including it. -/
def upTo (script : Script) (time : Instant) : Script :=
  script.filter fun entry => decide (entry.1 ≤ time)

/-- What is before a moment is found in every part that reaches up to it. -/
theorem before_upTo (script : Script) {moment time : Instant} (order : moment ≤ time) :
    (script.upTo time).before moment = script.before moment := by
  rw [before, before, upTo, List.filter_filter]
  refine List.filter_congr fun entry _ => ?_
  have covered : entry.1 < moment → entry.1 ≤ time := fun earlier =>
    Int.le_trans (Int.le_of_lt earlier) order
  simpa using covered

theorem upTo_append_of_later {past future : Script} {time : Instant}
    (later : ∀ entry ∈ future, time < entry.1) : (past ++ future).upTo time = past.upTo time := by
  have dropped : future.upTo time = [] :=
    List.filter_eq_nil_iff.mpr (by simpa [upTo] using later)
  rw [upTo, List.filter_append]
  exact (congrArg _ dropped).trans (List.append_nil _)

end Script

namespace Schedule

namespace Plan

/-- The number of look-ups of the plain pass. -/
def lookups (plan : Plan) : Nat := CriticalCss.lookups plan.plainPass.steps

/-- The time of the last answer that the plain pass gets, or the end of the delay if it looks
up nothing. -/
def lastAnswer (plan : Plan) : Instant := answerTime plan.due plan.lookupTime plan.lookups

/-- A plan that is carried out to its end: its delay can be waited for, time goes forward, and
nobody cancels. -/
structure IsUndisturbed (plan : Plan) : Prop where
  convertible : plan.options.settleDelay.hasSeconds = true
  delay : plan.options.settleDelay.span? = some plan.due
  forward : 0 ≤ plan.lookupTime
  timed : plan.script.IsTimed
  uncancelled : plan.script.NeverCancels

/-- Two plans are the same, and the same happens to page and rules, up to a time and
including it. -/
structure AgreeUpTo (plan other : Plan) (time : Instant) : Prop where
  options : other.options = plan.options
  nodes : other.nodes = plan.nodes
  page : other.page = plan.page
  lookupTime : other.lookupTime = plan.lookupTime
  script : other.script.upTo time = plan.script.upTo time

variable {plan other : Plan} {time : Instant}

theorem lastAnswer_of_instant (instant : plan.lookupTime = 0) : plan.lastAnswer = plan.due := by
  simp [lastAnswer, answerTime, instant]

theorem IsUndisturbed.due_le_lastAnswer (undisturbed : plan.IsUndisturbed) :
    plan.due ≤ plan.lastAnswer :=
  start_le_answerTime undisturbed.forward _

/-- Whatever happened before a moment is the same, up to the time of the agreement. -/
theorem AgreeUpTo.before_eq (agree : plan.AgreeUpTo other time) {moment : Instant}
    (order : moment ≤ time) : other.script.before moment = plan.script.before moment := by
  rw [← other.script.before_upTo order, ← plan.script.before_upTo order, agree.script]

/-- The delay is part of the options. -/
theorem AgreeUpTo.due_eq (agree : plan.AgreeUpTo other time) (undisturbed : plan.IsUndisturbed)
    (otherUndisturbed : other.IsUndisturbed) : other.due = plan.due := by
  have delay := otherUndisturbed.delay
  rw [agree.options, undisturbed.delay] at delay
  exact (Option.some.inj delay).symm

/-- The plain passes are the same if options and rules are, and if the pages are at the
answers that one of them gets. -/
theorem plainPass_congr (sameOptions : other.options = plan.options)
    (sameRules : other.script.rulesAt other.nodes other.due =
      plan.script.rulesAt plan.nodes plan.due)
    (samePages : ∀ count, count ≤ plan.lookups → other.pages count = plan.pages count) :
    other.plainPass = plan.plainPass := by
  unfold plainPass
  rw [sameOptions, sameRules]
  refine Pass.run_series_congr _ fun count _ within => samePages count ?_
  rwa [Nat.zero_add] at within

/-- The plain passes are the same if nothing differs up to the last answer. -/
theorem AgreeUpTo.plainPass_eq (agree : plan.AgreeUpTo other plan.lastAnswer)
    (undisturbed : plan.IsUndisturbed) (otherUndisturbed : other.IsUndisturbed) :
    other.plainPass = plan.plainPass := by
  have sameDue := agree.due_eq undisturbed otherUndisturbed
  refine plainPass_congr agree.options ?_ fun count asked => ?_
  · rw [sameDue, Script.rulesAt, Script.rulesAt, agree.nodes,
      agree.before_eq undisturbed.due_le_lastAnswer]
  · have within : answerTime plan.due plan.lookupTime count ≤ plan.lastAnswer :=
      answerTime_mono undisturbed.forward asked
    rw [pages, pages, sameDue, agree.lookupTime, agree.page, Script.pageAt, Script.pageAt,
      agree.before_eq within]

/-- What a plan that is carried out to its end comes to. -/
theorem IsUndisturbed.await_eq (undisturbed : plan.IsUndisturbed) (onCancel : OnCancel) :
    ((plan.schedule onCancel).run plan.script).await.promise =
        .ofOutcome plan.plainPass.outcome ∧
      ((plan.schedule onCancel).run plan.script).await.history =
        closing plan.plainPass.outcome ++ (plan.plainPass.steps.reverse ++ plan.opening) := by
  have onCourse := OnCourse.start undisturbed.convertible undisturbed.delay onCancel
  obtain ⟨course, noTimer⟩ := (onCourse.run undisturbed.forward (List.nil_append _).symm
    undisturbed.timed undisturbed.uncancelled).await undisturbed.forward
  cases course with
  | settling stands _ _ | asking stands _ _ _ =>
      simp [stands, Progression.timer?] at noTimer
  | ended _ settled history => exact ⟨settled, history⟩

end Plan

/-- The cutoff of a scheduled pass is the last answer to one of its look-ups: what happens to
the page after that changes neither the promised result nor what is asked. -/
theorem cutoff_at_lastAnswer {plan other : Plan} (undisturbed : plan.IsUndisturbed)
    (otherUndisturbed : other.IsUndisturbed) (agree : plan.AgreeUpTo other plan.lastAnswer)
    (onCancel : OnCancel) :
    ((other.schedule onCancel).run other.script).await.promise =
        ((plan.schedule onCancel).run plan.script).await.promise ∧
      ((other.schedule onCancel).run other.script).await.history =
        ((plan.schedule onCancel).run plan.script).await.history := by
  obtain ⟨settled, history⟩ := undisturbed.await_eq onCancel
  obtain ⟨otherSettled, otherHistory⟩ := otherUndisturbed.await_eq onCancel
  have samePlain := agree.plainPass_eq undisturbed otherUndisturbed
  have sameOpening : other.opening = plan.opening := by
    simp only [Plan.opening, agree.options]
  constructor
  · rw [otherSettled, settled, samePlain]
  · rw [otherHistory, history, samePlain, sameOpening]

/-- Where look-ups take no time, the cutoff is the end of the delay. -/
theorem cutoff_at_due_of_instant {plan other : Plan} (undisturbed : plan.IsUndisturbed)
    (otherUndisturbed : other.IsUndisturbed) (instant : plan.lookupTime = 0)
    (agree : plan.AgreeUpTo other plan.due) (onCancel : OnCancel) :
    ((other.schedule onCancel).run other.script).await.promise =
      ((plan.schedule onCancel).run plan.script).await.promise := by
  rw [← Plan.lastAnswer_of_instant instant] at agree
  rw [(otherUndisturbed.await_eq onCancel).1, (undisturbed.await_eq onCancel).1,
    agree.plainPass_eq undisturbed otherUndisturbed]

/-! ## What comes late and what comes in time -/

/-- What happens after the last look-up of `changingPlan` has been answered at 120. -/
def lateScript : Script :=
  [(130 * Binary64.unitsPerOne, .insert ".late" [⟨.ok (.ofInt 10), .ok (.text "static")⟩]),
    (140 * Binary64.unitsPerOne, .remove ".hero")]

/-- A plan to which more happens than to another, but only after the last answer. -/
def latePlan : Plan :=
  { changingPlan with script := List.append changingPlan.script lateScript }

/-- The plan that leaves the page alone once the delay is over. -/
def quietPlan : Plan := { changingPlan with script := changingPlan.script.take 1 }

theorem changingPlan_isUndisturbed : changingPlan.IsUndisturbed where
  convertible := by decide +kernel
  delay := by decide +kernel
  forward := by decide +kernel
  timed := by decide +kernel
  uncancelled := by decide +kernel

theorem latePlan_isUndisturbed : latePlan.IsUndisturbed :=
  { changingPlan_isUndisturbed with
    timed := by decide +kernel
    uncancelled := by decide +kernel }

theorem quietPlan_isUndisturbed : quietPlan.IsUndisturbed :=
  { changingPlan_isUndisturbed with
    timed := by decide +kernel
    uncancelled := by decide +kernel }

theorem latePlan_cutoff_at_lastAnswer :
    changingPlan.IsUndisturbed ∧ latePlan.IsUndisturbed ∧
      changingPlan.AgreeUpTo latePlan changingPlan.lastAnswer ∧
      ((latePlan.schedule .giveWay).run latePlan.script).await.promise =
        ((changingPlan.schedule .giveWay).run changingPlan.script).await.promise :=
  have later : ∀ entry ∈ lateScript, changingPlan.lastAnswer < entry.1 := by decide +kernel
  have agree : changingPlan.AgreeUpTo latePlan changingPlan.lastAnswer :=
    ⟨rfl, rfl, rfl, rfl, Script.upTo_append_of_later later⟩
  ⟨changingPlan_isUndisturbed, latePlan_isUndisturbed, agree,
    (cutoff_at_lastAnswer changingPlan_isUndisturbed latePlan_isUndisturbed agree .giveWay).1⟩

/-- The number of rules that the promise holds, once it holds any result. -/
def promisedCount (schedule : Schedule) : Option Nat :=
  match schedule.promise with
  | .done rules => some rules.length
  | _ => none

/-- The end of the delay is no cutoff: an element that comes later, while a look-up is on its
way, is taken as critical. -/
theorem no_cutoff_at_due :
    ¬ ∀ plan other : Plan, plan.IsUndisturbed → other.IsUndisturbed →
      plan.AgreeUpTo other plan.due → ∀ onCancel,
        ((other.schedule onCancel).run other.script).await.promise =
          ((plan.schedule onCancel).run plan.script).await.promise := by
  intro cutoff
  have later : ∀ entry ∈ changingPlan.script.drop 1, changingPlan.due < entry.1 := by
    decide +kernel
  have agree : changingPlan.AgreeUpTo quietPlan changingPlan.due :=
    ⟨rfl, rfl, rfl, rfl, (Script.upTo_append_of_later later).symm⟩
  have same := cutoff changingPlan quietPlan changingPlan_isUndisturbed quietPlan_isUndisturbed
    agree .giveWay
  have withElement :
      promisedCount ((changingPlan.schedule .giveWay).run changingPlan.script).await = some 2 := by
    decide +kernel
  have withoutElement :
      promisedCount ((quietPlan.schedule .giveWay).run quietPlan.script).await = some 1 := by
    decide +kernel
  simp only [promisedCount, same] at withoutElement
  simp only [promisedCount, withoutElement] at withElement
  cases withElement

end Schedule

end CriticalCss
