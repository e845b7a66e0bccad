import CriticalCss.Proofs.Criticality
import CriticalCss.Proofs.Pruning.Alike
import CriticalCss.Proofs.Schedule.Run

/-!
# Cancelling a scheduled pass

The promise and the pass behind it end separately: the promise may be cancelled while the
pass goes on, and the pass may end after that.  The promise is settled once and keeps what
it was settled with, whatever the pass does; and a pass that is cancelled asks no more,
unless a look-up goes on in spite of it.
-/

namespace CriticalCss.Schedule

/-- One schedule comes of another: time goes by, something happens from outside, or the
result is awaited, in any order. -/
inductive Reaches (first : Schedule) : Schedule → Prop where
  | refl : Reaches first first
  | advance {schedule : Schedule} (time : Instant) :
      Reaches first schedule → Reaches first (schedule.advance time)
  | act {schedule : Schedule} (action : Action) :
      Reaches first schedule → Reaches first (schedule.act action)
  | await {schedule : Schedule} : Reaches first schedule → Reaches first schedule.await

/-- The questions that were asked, last one first. -/
def questions (schedule : Schedule) : List (PassStep Located) :=
  schedule.history.filter PassStep.isQuestion

section

variable {schedule later : Schedule}

/-! ## The promise -/

theorem work_promise (settled : schedule.promise.isPending = false) (limit : Option Instant) :
    (schedule.work limit).promise = schedule.promise := by
  unfold work
  split
  · rfl
  · rfl
  · split
    · rw [apply_of_settled settled]
      rfl
    · rfl
  · split
    · rw [apply_of_settled settled]
      rfl
    · rfl

/-- Cancelling says whether the promise was pending. -/
theorem cancel_fst (schedule : Schedule) : schedule.cancel.1 = schedule.promise.isPending := by
  unfold cancel
  cases schedule.promise <;> rfl

theorem cancel_of_settled (settled : schedule.promise.isPending = false) :
    schedule.cancel = (false, schedule) := by
  unfold cancel
  cases promise : schedule.promise with
  | pending => rw [promise] at settled; cases settled
  | done _ | failed _ | cancelled => rfl

theorem cancel_of_pending (pending : schedule.promise.isPending = true) :
    schedule.cancel.2 = { schedule with promise := .cancelled }.followUp := by
  simp only [cancel, Promise.eq_pending pending, Promise.cancel]

/-- What is settled stays as it is. -/
theorem Reaches.promise_eq (reaches : Reaches schedule later)
    (settled : schedule.promise.isPending = false) : later.promise = schedule.promise := by
  induction reaches with
  | refl => rfl
  | advance time _ ih => exact (work_promise (by rw [ih]; exact settled) _).trans ih
  | @act before action _ ih =>
      have settledBefore : before.promise.isPending = false := by rw [ih]; exact settled
      cases action with
      | cancel =>
          rw [Schedule.act, cancel_of_settled settledBefore]
          exact ih
      | _ => exact ih
  | @await before _ ih =>
      have settledBefore : before.promise.isPending = false := by rw [ih]; exact settled
      rw [Schedule.await, settledBefore]
      exact ih

/-- What follows a cancellation leaves the promise cancelled. -/
theorem cancelPass_promise (settled : schedule.promise.isPending = false) :
    schedule.cancelPass.promise = schedule.promise := by
  unfold cancelPass
  split
  · rw [apply_of_settled settled]
    rfl
  · rw [apply_of_settled settled]
    rfl
  · rfl

theorem followUp_promise (settled : schedule.promise.isPending = false) :
    schedule.followUp.promise = schedule.promise := by
  unfold followUp
  split
  · exact cancelPass_promise settled
  · rfl

/-- A pending promise becomes a cancelled one. -/
theorem cancel_promise (pending : schedule.promise.isPending = true) :
    schedule.cancel.2.promise = .cancelled := by
  rw [cancel_of_pending pending]
  exact followUp_promise rfl

/-! ## No outcome is refused -/

theorem cancelPass_sameSetting (schedule : Schedule) :
    SameSetting schedule schedule.cancelPass := by
  unfold cancelPass
  split
  · exact apply_sameSetting _ _
  · exact apply_sameSetting _ _
  · exact ⟨rfl, rfl, rfl, rfl, rfl, rfl⟩

theorem cancel_sameSetting (schedule : Schedule) :
    SameSetting schedule schedule.cancel.2 := by
  cases pending : schedule.promise.isPending with
  | false =>
      rw [cancel_of_settled pending]
      exact .refl schedule
  | true =>
      rw [cancel_of_pending pending]
      have cancelled : SameSetting schedule { schedule with promise := .cancelled } :=
        ⟨rfl, rfl, rfl, rfl, rfl, rfl⟩
      refine cancelled.trans ?_
      unfold followUp
      split
      · exact cancelPass_sameSetting _
      · exact .refl _

theorem act_refused (schedule : Schedule) (action : Action) :
    (schedule.act action).refused = schedule.refused ∧
      (schedule.act action).onCancel = schedule.onCancel := by
  cases action with
  | cancel => exact ⟨(cancel_sameSetting schedule).refused, (cancel_sameSetting schedule).onCancel⟩
  | _ => exact ⟨rfl, rfl⟩

/-- Nothing that happens makes a promise refuse an outcome, or changes how a look-up takes
its cancellation. -/
theorem Reaches.refused_eq (reaches : Reaches schedule later) :
    later.refused = schedule.refused ∧ later.onCancel = schedule.onCancel := by
  induction reaches with
  | refl => exact ⟨rfl, rfl⟩
  | @advance before time _ ih =>
      have kept := advance_sameSetting before time
      exact ⟨kept.refused.trans ih.1, kept.onCancel.trans ih.2⟩
  | @act before action _ ih =>
      have kept := act_refused before action
      exact ⟨kept.1.trans ih.1, kept.2.trans ih.2⟩
  | @await before _ ih =>
      have kept := await_sameSetting before
      exact ⟨kept.refused.trans ih.1, kept.onCancel.trans ih.2⟩

/-! ## Nothing more is asked -/

/-- If an answer is awaited, the pass behind it takes failures as passes do. -/
def IsFaithful : Progression → Prop
  | .asking selector _ next => Pass.Alike Eq (.query selector next) (.query selector next)
  | _ => True

/-- Whatever the answer is, the pass goes on like that. -/
theorem IsFaithful.next {selector : String} {due : Instant}
    {next : Except Fault (List Located) → Pass Located (List Value)}
    (faithful : IsFaithful (.asking selector due next)) (reply : Except Fault (List Located)) :
    Pass.Alike Eq (next reply) (next reply) := by
  cases faithful with
  | query _ alike _ => exact alike _ _ (SameReply.refl reply)

theorem proceed_faithful {pass : Pass Located (List Value)} (faithful : Pass.Alike Eq pass pass)
    (page : Snapshot) (lookupTime : Instant) (limit : Option Instant) (now : Instant)
    (history : List (PassStep Located)) :
    IsFaithful (proceed page lookupTime limit pass now history).progression := by
  induction pass generalizing now history with
  | done outcome => trivial
  | note event rest ih =>
      cases faithful with
      | note _ alike => exact ih alike now _
  | query selector next ih =>
      have here : IsFaithful (.asking selector (now + lookupTime) next) := faithful
      simp only [proceed]
      split
      · exact ih _ (here.next _) _ _
      · exact here
  | top clear element next ih =>
      cases faithful with
      | top _ alike => exact ih _ (alike _) now _
  | position element next ih =>
      cases faithful with
      | position _ alike => exact ih _ (alike _) now _

theorem work_faithful (faithful : IsFaithful schedule.progression) (limit : Option Instant) :
    IsFaithful (schedule.work limit).progression := by
  unfold work
  split
  · exact faithful
  · exact faithful
  · split
    · rw [apply_progression]
      exact proceed_faithful (Pass.prune_alike _ _) _ _ _ _ _
    · exact faithful
  next stands =>
    split
    · rw [apply_progression]
      rw [stands] at faithful
      exact proceed_faithful (faithful.next _) _ _ _ _ _
    · exact faithful

theorem cancelPass_faithful (faithful : IsFaithful schedule.progression) :
    IsFaithful schedule.cancelPass.progression := by
  unfold cancelPass
  split
  next stands _ =>
    rw [stands] at faithful
    rw [apply_progression]
    exact proceed_faithful (faithful.next _) _ _ _ _ _
  next stands _ =>
    rw [stands] at faithful
    rw [apply_progression]
    exact proceed_faithful (faithful.next _) _ _ _ _ _
  · trivial

theorem act_faithful (faithful : IsFaithful schedule.progression) (action : Action) :
    IsFaithful (schedule.act action).progression := by
  cases action with
  | cancel =>
      cases pending : schedule.promise.isPending with
      | false =>
          rw [act, cancel_of_settled pending]
          exact faithful
      | true =>
          rw [act, cancel_of_pending pending]
          unfold followUp
          split
          · exact cancelPass_faithful faithful
          · exact faithful
  | _ => exact faithful

theorem Reaches.faithful (reaches : Reaches schedule later)
    (faithful : IsFaithful schedule.progression) : IsFaithful later.progression := by
  induction reaches with
  | refl => exact faithful
  | advance time _ ih => exact work_faithful ih _
  | act action _ ih => exact act_faithful ih action
  | await _ ih =>
      unfold Schedule.await
      split
      · exact work_faithful ih _
      · exact ih

/-- A settled schedule whose pass has ended does nothing more. -/
theorem Reaches.history_eq (reaches : Reaches schedule later)
    (settled : schedule.promise.isPending = false) (ended : schedule.progression = .ended) :
    later.progression = .ended ∧ later.history = schedule.history := by
  induction reaches with
  | refl => exact ⟨ended, rfl⟩
  | @advance before time _ ih =>
      have idle : before.advance time = { before with now := time } :=
        advance_of_not_due fun _ timer => by rw [ih.1] at timer; cases timer
      rw [idle]
      exact ih
  | @act before action reached ih =>
      cases action with
      | cancel =>
          have settledBefore : before.promise.isPending = false := by
            rw [reached.promise_eq settled]
            exact settled
          rw [Schedule.act, cancel_of_settled settledBefore]
          exact ih
      | _ => exact ih
  | @await before reached ih =>
      rw [Schedule.await, reached.promise_eq settled, settled]
      exact ih

/-- Unless a look-up goes on in spite of it, cancelling ends the pass at once. -/
theorem cancelPass_ends (faithful : IsFaithful schedule.progression)
    (gives : schedule.onCancel ≠ .goOn) :
    schedule.cancelPass.progression = .ended ∧
      schedule.cancelPass.history = schedule.history := by
  unfold cancelPass
  split
  next goesOn => exact absurd goesOn gives
  next stands _ =>
    rw [stands] at faithful
    cases faithful with
    | query _ _ fails =>
        rw [apply_progression, apply_history, fails _ fun ⟨_, refusal⟩ => nomatch refusal]
        exact ⟨rfl, rfl⟩
  · exact ⟨rfl, rfl⟩

theorem cancel_ends (faithful : IsFaithful schedule.progression)
    (gives : schedule.onCancel ≠ .goOn)
    (pending : schedule.promise.isPending = true) :
    schedule.cancel.2.progression = .ended ∧
      schedule.cancel.2.history = schedule.history := by
  rw [cancel_of_pending pending]
  unfold followUp
  split
  · exact cancelPass_ends faithful gives
  next notEnded =>
    refine ⟨?_, rfl⟩
    cases stands : schedule.progression with
    | ended => rfl
    | _ => simp [stands, Promise.isCancelled, Progression.isEnded] at notEnded

/-- A promise is settled once and for all, cancelling it says whether it was pending, no
outcome is ever refused, and after a cancellation nothing more is asked unless a look-up
goes on in spite of it. -/
theorem settles_once (options : Options) (rules : Value) (page : Snapshot)
    (lookupTime : Instant) (onCancel : OnCancel) {schedule : Schedule}
    (reached : Reaches (start options rules page lookupTime onCancel) schedule) :
    (schedule.promise.isPending = false →
      ∀ later, Reaches schedule later → later.promise = schedule.promise) ∧
    schedule.cancel.1 = schedule.promise.isPending ∧
    (schedule.cancel.1 = true → schedule.cancel.2.promise = .cancelled) ∧
    (schedule.cancel.1 = false → schedule.cancel.2 = schedule) ∧
    schedule.refused = false ∧
    (schedule.cancel.1 = true → onCancel ≠ .goOn →
      ∀ later, Reaches schedule.cancel.2 later → later.questions = schedule.questions) := by
  have ⟨neverRefused, sameReaction⟩ := reached.refused_eq
  have faithful : IsFaithful schedule.progression := reached.faithful <| by
    unfold start Progression.ofDelay
    split <;> trivial
  refine ⟨fun settled later reaches => reaches.promise_eq settled, cancel_fst schedule, ?_, ?_,
    neverRefused, ?_⟩
  · rw [cancel_fst]
    exact cancel_promise
  · rw [cancel_fst]
    exact fun settled => by rw [cancel_of_settled settled]
  · rw [cancel_fst]
    intro pending gives later reaches
    have ⟨ended, unchanged⟩ := cancel_ends faithful (by rwa [sameReaction]) pending
    have settled : schedule.cancel.2.promise.isPending = false := by
      rw [cancel_promise pending]
      rfl
    rw [questions, (reaches.history_eq settled ended).2, unchanged, questions]

end

/-- A pass with one look-up, which fails when it is cancelled. -/
def oneLookup : Schedule :=
  start .plain (.list [.object [("type", .text "rule"), ("selectors", .list [.text ".hero"])]])
    ⟨[], [], []⟩ (10 * Binary64.unitsPerOne) .fail

theorem oneLookup_settles_once :
    Reaches oneLookup (oneLookup.advance (105 * Binary64.unitsPerOne)) ∧
      (oneLookup.advance (105 * Binary64.unitsPerOne)).cancel.1 = true ∧
      ∀ later, Reaches (oneLookup.advance (105 * Binary64.unitsPerOne)).cancel.2 later →
        later.questions = (oneLookup.advance (105 * Binary64.unitsPerOne)).questions :=
  have reached : Reaches oneLookup (oneLookup.advance (105 * Binary64.unitsPerOne)) :=
    .advance _ .refl
  have accepted : (oneLookup.advance (105 * Binary64.unitsPerOne)).cancel.1 = true := by
    decide +kernel
  have ⟨_, _, _, _, _, silent⟩ :=
    settles_once .plain _ ⟨[], [], []⟩ (10 * Binary64.unitsPerOne) .fail reached
  ⟨reached, accepted, silent accepted (by decide)⟩

end CriticalCss.Schedule
