import CriticalCss.Proofs.Options.Entries
import CriticalCss.Proofs.Schedule.Cancellation

/-!
# No pass ends without settling its promise

Whoever awaits a promise relies on the pass behind it: a pass that has ended delivers nothing
more.  Every way to the end of a running pass settles the promise, whether the pass succeeds,
fails or is cancelled.  There is one end that is not guarded in this way.  It lies before the
pass begins, where a delay that has no number of seconds cannot be waited for.
-/

namespace CriticalCss

namespace Schedule

/-- A promise is cancelled, or it holds the outcome that ended the pass; if that is a list of
rules, the history ends with the report that the pass is done. -/
def IsDelivered (schedule : Schedule) : Prop :=
  schedule.promise = .cancelled ∨
    ∃ outcome earlier, schedule.promise = .ofOutcome outcome ∧
      schedule.history = closing outcome ++ earlier

/-- How promise and pass fit together: a promise is not settled by a pass that goes on, unless
by its cancellation, and a pass that has ended has settled it. -/
inductive IsCoherent (schedule : Schedule) : Prop where
  | running : schedule.progression ≠ .ended →
      (schedule.promise = .pending ∨ schedule.promise = .cancelled) → IsCoherent schedule
  | ended : schedule.progression = .ended → schedule.IsDelivered → IsCoherent schedule

section

variable {schedule later : Schedule}

theorem IsDelivered.isPending_eq_false (delivered : schedule.IsDelivered) :
    schedule.promise.isPending = false := by
  rcases delivered with cancelled | ⟨outcome, _, delivered, _⟩
  · rw [cancelled]
    rfl
  · rw [delivered]
    cases outcome <;> rfl

theorem IsCoherent.isDelivered (coherent : schedule.IsCoherent)
    (ended : schedule.progression = .ended) : schedule.IsDelivered := by
  cases coherent with
  | running runs _ => exact absurd ended runs
  | ended _ delivered => exact delivered

/-! ## One stretch -/

/-- A stretch of a pass ends the pass with an outcome or leads to a wait for an answer. -/
theorem proceed_cases (page : Snapshot) (lookupTime : Instant) (limit : Option Instant)
    (pass : Pass Located (List Value)) (now : Instant) (history : List (PassStep Located)) :
    (∃ time outcome earlier, proceed page lookupTime limit pass now history =
      ⟨time, .ended, some outcome, closing outcome ++ earlier⟩) ∨
    ∃ time selector due next steps, proceed page lookupTime limit pass now history =
      ⟨time, .asking selector due next, none, steps⟩ := by
  induction pass generalizing now history with
  | done outcome => exact .inl ⟨now, outcome, history, rfl⟩
  | note event rest ih => exact ih _ _
  | top clear element next ih => exact ih _ _ _
  | position element next ih => exact ih _ _ _
  | query selector next ih =>
      simp only [proceed]
      split
      · exact ih _ _ _
      · exact .inr ⟨_, _, _, _, _, rfl⟩

/-- A stretch of a pass keeps the promise coherent with it, if that has not been settled by
the pass before. -/
theorem apply_proceed_isCoherent
    (open? : schedule.promise = .pending ∨ schedule.promise = .cancelled) (page : Snapshot)
    (lookupTime : Instant) (limit : Option Instant) (pass : Pass Located (List Value))
    (now : Instant) (history : List (PassStep Located)) :
    (schedule.apply (proceed page lookupTime limit pass now history)).IsCoherent := by
  rcases proceed_cases page lookupTime limit pass now history with
    ⟨time, outcome, earlier, stretch⟩ | ⟨time, selector, due, next, steps, stretch⟩
  · rw [stretch]
    rcases open? with pending | cancelled
    · rw [apply_of_pending pending rfl]
      exact .ended rfl (.inr ⟨outcome, earlier, rfl, rfl⟩)
    · rw [apply_of_settled (by rw [cancelled]; rfl)]
      exact .ended rfl (.inl cancelled)
  · rw [stretch]
    exact .running nofun open?

/-! ## A whole run -/

/-- A pass that has ended does not go on. -/
theorem work_of_ended (ended : schedule.progression = .ended) (limit : Option Instant) :
    schedule.work limit = schedule := by
  simp only [work, ended]

/-- Whatever the pass does, a cancelled promise is coherent with it. -/
theorem isCoherent_of_cancelled (cancelled : schedule.promise = .cancelled) :
    schedule.IsCoherent := by
  by_cases ended : schedule.progression = .ended
  · exact .ended ended (.inl cancelled)
  · exact .running ended (.inr cancelled)

theorem work_isCoherent (coherent : schedule.IsCoherent) (limit : Option Instant) :
    (schedule.work limit).IsCoherent := by
  cases coherent with
  | ended stands delivered =>
      rw [work_of_ended stands]
      exact .ended stands delivered
  | running runs open? =>
      unfold work
      split
      · exact .running runs open?
      · exact .running runs open?
      · split
        · exact apply_proceed_isCoherent open? _ _ _ _ _ _
        · exact .running runs open?
      · split
        · exact apply_proceed_isCoherent open? _ _ _ _ _ _
        · exact .running runs open?

/-- Neither the page, the rules nor the clock matter to coherence. -/
theorem IsCoherent.congr (coherent : schedule.IsCoherent)
    (progression : later.progression = schedule.progression)
    (promise : later.promise = schedule.promise) (history : later.history = schedule.history) :
    later.IsCoherent := by
  cases coherent with
  | running runs open? => exact .running (by rwa [progression]) (by rwa [promise])
  | ended stands delivered =>
      exact .ended (by rwa [progression]) (by rwa [IsDelivered, promise, history])

theorem act_isCoherent (coherent : schedule.IsCoherent) (action : Action) :
    (schedule.act action).IsCoherent := by
  cases action with
  | cancel =>
      cases pending : schedule.promise.isPending with
      | true => exact isCoherent_of_cancelled (cancel_promise pending)
      | false =>
          rw [act, cancel_of_settled pending]
          exact coherent
  | insert _ _ | remove _ | addRule _ | look => exact coherent.congr rfl rfl rfl

/-- Nothing that happens takes a promise and its pass out of step. -/
theorem Reaches.isCoherent (reaches : Reaches schedule later)
    (coherent : schedule.IsCoherent) : later.IsCoherent := by
  induction reaches with
  | refl => exact coherent
  | advance time _ ih => exact (work_isCoherent ih (some time)).congr rfl rfl rfl
  | act action _ ih => exact act_isCoherent ih action
  | await _ ih =>
      unfold Schedule.await
      split
      · exact work_isCoherent ih none
      · exact ih

/-- A pass that has ended is not cancelled. -/
theorem followUp_of_ended (ended : schedule.progression = .ended) :
    schedule.followUp = schedule := by
  simp [followUp, ended, Progression.isEnded]

/-- A pass that has ended stays so, and nothing but a cancellation settles its promise. -/
theorem Reaches.of_ended (reaches : Reaches schedule later)
    (ended : schedule.progression = .ended) (pending : schedule.promise = .pending) :
    later.progression = .ended ∧ (later.promise = .pending ∨ later.promise = .cancelled) := by
  induction reaches with
  | refl => exact ⟨ended, .inl pending⟩
  | advance time _ ih =>
      rw [Schedule.advance, work_of_ended ih.1]
      exact ih
  | @act before action _ ih =>
      cases action with
      | cancel =>
          rcases ih with ⟨endedBefore, pendingBefore | cancelledBefore⟩
          · have pendingStill : before.promise.isPending = true := by rw [pendingBefore]; rfl
            have endedThen : ({ before with promise := .cancelled } : Schedule).progression =
                .ended := endedBefore
            have endedStill : before.cancel.2.progression = .ended := by
              rw [cancel_of_pending pendingStill, followUp_of_ended endedThen]
              exact endedThen
            exact ⟨endedStill, .inr (cancel_promise pendingStill)⟩
          · have settled : before.promise.isPending = false := by rw [cancelledBefore]; rfl
            rw [Schedule.act, cancel_of_settled settled]
            exact ⟨endedBefore, .inr cancelledBefore⟩
      | insert _ _ | remove _ | addRule _ | look => exact ih
  | await _ ih =>
      unfold Schedule.await
      rw [work_of_ended ih.1, ite_self]
      exact ih

end

/-- Every end of the pass delivers its outcome, unless the promise is cancelled, if, and only
if, the delay has a number of seconds.  Without one the pass has ended before it began, and
nothing but a cancellation ever settles the promise. -/
theorem settled_of_ended_iff_hasSeconds (options : Options) (rules : Value) (page : Snapshot)
    (lookupTime : Instant) (onCancel : OnCancel) :
    (options.settleDelay.hasSeconds = true ↔
      ∀ schedule, Reaches (start options rules page lookupTime onCancel) schedule →
        schedule.progression = .ended → schedule.IsDelivered) ∧
    (options.settleDelay.hasSeconds = false →
      ∀ schedule, Reaches (start options rules page lookupTime onCancel) schedule →
        schedule.progression = .ended ∧
          (schedule.promise = .pending ∨ schedule.promise = .cancelled)) := by
  have begins : (start options rules page lookupTime onCancel).progression = .ended ↔
      options.settleDelay.hasSeconds = false := by
    cases convertible : options.settleDelay.hasSeconds <;>
      simp [start, Progression.ofDelay, convertible]
  refine ⟨⟨fun convertible schedule reached ended => ?_, fun delivers => ?_⟩,
    fun inconvertible schedule reached => reached.of_ended (begins.mpr inconvertible) rfl⟩
  · have runs : (start options rules page lookupTime onCancel).progression ≠ .ended := by
      rw [Ne, begins, convertible]
      exact Bool.noConfusion
    exact (reached.isCoherent (.running runs (.inl rfl))).isDelivered ended
  · cases convertible : options.settleDelay.hasSeconds with
    | true => rfl
    | false =>
        have settled := (delivers _ .refl (begins.mpr convertible)).isPending_eq_false
        cases settled

/-- A delay of so many milliseconds that they are too many seconds for a double. -/
def endlessDelay : Number := .whole (.ofNat (Nat.pow 10 400))

/-- Options with a delay that cannot be waited for. -/
def endlessOptions : Options :=
  { Options.plain with settleDelay := endlessDelay, delay_nonnegative := by decide +kernel }

/-- A delay that is accepted in options can leave a promise pending behind a pass that has
ended. -/
theorem endlessOptions_pending_behind_ended :
    Options.build (.list (endlessOptions.forceInclude.map .entry))
        (.number endlessOptions.viewportHeight) (.number endlessDelay) = .ok endlessOptions ∧
      ¬ ∀ (rules : Value) (page : Snapshot) (lookupTime : Instant) (onCancel : OnCancel) schedule,
        Reaches (start endlessOptions rules page lookupTime onCancel) schedule →
          schedule.progression = .ended → schedule.promise.isPending = false := by
  have inconvertible : endlessOptions.settleDelay.hasSeconds = false := by decide +kernel
  refine ⟨endlessOptions.build_parts, fun complete => ?_⟩
  have ended : (start endlessOptions (.list []) ⟨[], [], []⟩ 0 .giveWay).progression = .ended := by
    simp [start, Progression.ofDelay, inconvertible]
  have settled := complete _ _ _ _ _ .refl ended
  cases settled

end Schedule

end CriticalCss
