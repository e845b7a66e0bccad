import CriticalCss.Browser.Page
import CriticalCss.Proofs.Browser.Session

/-!
# What is taken from a page and given back

A look-up takes an array from the page, and from the array a handle for each of its
properties.  A ledger follows the steps of a run and says what is held after each of them.
Its entries are strict: a look-up begins only when nothing is held, handles are given back
in the order in which they were taken, and only what is held is measured.  So a run that
has a ledger is tidy: everything taken is given back exactly once, and nothing is touched
after that.
-/

namespace CriticalCss.Browser

/-- What has been taken from a page and not been given back: arrays, by the selectors that
gave them, and handles. -/
structure Holding where
  arrays : List String
  handles : List Handle

/-- Nothing is held. -/
def Holding.nothing : Holding := ⟨[], []⟩

namespace Step

/-- The array that a step takes: evaluating a selector gives one unless it fails. -/
def arraysTaken (content : Content) : Step → List String
  | .called (.evaluate selector) =>
    if (content.evaluation selector).isNone then [selector] else []
  | _ => []

/-- The array that a step gives back. -/
def arraysReleased : Step → List String
  | .called (.releaseArray selector) => [selector]
  | _ => []

/-- The handles that a step takes: listing the properties of an array gives some unless it
fails. -/
def handlesTaken (content : Content) : Step → List Handle
  | .called (.properties selector) => (content.listing selector).toOption.getD []
  | _ => []

/-- The handle that a step gives back. -/
def handlesReleased : Step → List Handle
  | .called (.release handle) => [handle]
  | _ => []

/-- The handle that a step measures. -/
def measured? : Step → Option Handle
  | .called (.measureTop handle _) | .called (.measurePosition handle) => some handle
  | _ => none

/-- The selector that a step looks up. -/
def lookedUp? : Step → Option String
  | .called (.evaluate selector) => some selector
  | _ => none

end Step

/-- Between two moments the steps account for what is held: what was held and what was taken
is what was given back, in the same order, and what is held. -/
structure Accounts (content : Content) (first : Holding) (steps : List Step)
    (last : Holding) : Prop where
  arrays : first.arrays ++ steps.flatMap (Step.arraysTaken content) =
    steps.flatMap Step.arraysReleased ++ last.arrays
  handles : first.handles ++ steps.flatMap (Step.handlesTaken content) =
    steps.flatMap Step.handlesReleased ++ last.handles

/-- The steps leave a holding to those who held nothing before. -/
def Leaves (content : Content) (steps : List Step) (holding : Holding) : Prop :=
  Accounts content .nothing steps holding

/-- The steps treat what they take from a page with care. -/
structure IsTidy (content : Content) (steps : List Step) : Prop where
  /-- Everything taken is given back exactly once. -/
  balanced : Leaves content steps .nothing
  /-- Nothing is given back before it is taken, and at most one array is held at a time. -/
  steady : ∀ {past future}, steps = past ++ future →
    ∃ holding, Leaves content past holding ∧ holding.arrays.length ≤ 1
  /-- A look-up begins when nothing is held, so the handles of two look-ups are never held
  at a time. -/
  lookups : ∀ {past step future selector}, steps = past ++ step :: future →
    step.lookedUp? = some selector → Leaves content past .nothing
  /-- What is measured was taken since the last look-up began and is still held. -/
  measured : ∀ {past step future handle}, steps = past ++ step :: future →
    step.measured? = some handle →
    ∃ earlier lookup recent holding, past = earlier ++ lookup :: recent ∧
      lookup.lookedUp?.isSome ∧ (∀ step ∈ recent, step.lookedUp? = none) ∧
      Leaves content (lookup :: recent) holding ∧ handle ∈ holding.handles
  /-- The parts of a session are closed when nothing is held. -/
  closed : ∀ {past part future}, steps = past ++ .called (.close part) :: future →
    Leaves content past .nothing

/-! ## Ledgers -/

/-- One entry of a ledger: a step leads from one holding to another. -/
inductive Entry (content : Content) : Holding → Step → Holding → Prop where
  | outside {holding : Holding} {step : Step} :
      step.IsOutside → (∀ part, step = .called (.close part) → holding = .nothing) →
      Entry content holding step holding
  | refused {selector report : String} : content.evaluation selector = some report →
      Entry content .nothing (.called (.evaluate selector)) .nothing
  | evaluated {selector : String} : content.evaluation selector = none →
      Entry content .nothing (.called (.evaluate selector)) ⟨[selector], []⟩
  | unlisted {selector report : String} : content.listing selector = .error report →
      Entry content ⟨[selector], []⟩ (.called (.properties selector)) ⟨[selector], []⟩
  | listed {selector : String} {handles : List Handle} :
      content.listing selector = .ok handles →
      Entry content ⟨[selector], []⟩ (.called (.properties selector)) ⟨[selector], handles⟩
  | arrayReleased {selector : String} {handles : List Handle} :
      Entry content ⟨[selector], handles⟩ (.called (.releaseArray selector)) ⟨[], handles⟩
  | measured {handles : List Handle} {step : Step} {handle : Handle} :
      step.measured? = some handle → handle ∈ handles →
      Entry content ⟨[], handles⟩ step ⟨[], handles⟩
  | released {handle : Handle} {rest : List Handle} :
      Entry content ⟨[], handle :: rest⟩ (.called (.release handle)) ⟨[], rest⟩

/-- A ledger: steps lead from one holding to another, entry by entry. -/
inductive Ledger (content : Content) : Holding → List Step → Holding → Prop where
  | nil {holding : Holding} : Ledger content holding [] holding
  | cons {first next last : Holding} {step : Step} {steps : List Step} :
      Entry content first step next → Ledger content next steps last →
      Ledger content first (step :: steps) last

variable {content : Content} {first next last holding : Holding}
variable {step : Step} {steps past future : List Step}

namespace Entry

/-- A single entry accounts for its step. -/
theorem accounts (entry : Entry content first step next) :
    Accounts content first [step] next := by
  cases entry with
  | outside outside _ =>
      unfold Step.IsOutside at outside
      constructor <;> split at outside <;>
        simp_all [Step.arraysTaken, Step.arraysReleased, Step.handlesTaken,
          Step.handlesReleased]
  | refused failed | evaluated failed =>
      constructor <;>
        simp [Step.arraysTaken, Step.arraysReleased, Step.handlesTaken,
          Step.handlesReleased, Holding.nothing, failed]
  | unlisted reply | listed reply =>
      constructor <;>
        simp [Step.arraysTaken, Step.arraysReleased, Step.handlesTaken,
          Step.handlesReleased, reply, Except.toOption]
  | arrayReleased | released =>
      constructor <;>
        simp [Step.arraysTaken, Step.arraysReleased, Step.handlesTaken, Step.handlesReleased]
  | measured isMeasured _ =>
      unfold Step.measured? at isMeasured
      constructor <;> split at isMeasured <;>
        simp_all [Step.arraysTaken, Step.arraysReleased, Step.handlesTaken,
          Step.handlesReleased]

/-- There is never more than one array. -/
theorem arrays_le (entry : Entry content first step next) (one : first.arrays.length ≤ 1) :
    next.arrays.length ≤ 1 := by
  cases entry <;> simp_all [Holding.nothing]

/-- Only those who hold nothing look something up. -/
theorem eq_nothing_of_lookup (entry : Entry content first step next) {selector : String}
    (isLookup : step.lookedUp? = some selector) : first = .nothing := by
  unfold Step.lookedUp? at isLookup
  split at isLookup
  · cases entry with
    | refused _ | evaluated _ => rfl
    | outside outside _ => cases outside
    | measured isMeasured _ => cases isMeasured
  · cases isLookup

/-- Those who hold nothing and look nothing up take nothing. -/
theorem eq_nothing_of_not_lookup (entry : Entry content .nothing step next)
    (noLookup : step.lookedUp? = none) : next = .nothing := by
  cases entry with
  | outside _ _ => rfl
  | refused _ => rfl
  | evaluated _ => cases noLookup
  | measured _ member => cases member

/-- Only those who hold nothing close a part. -/
theorem eq_nothing_of_close {part : Part}
    (entry : Entry content first (.called (.close part)) next) : first = .nothing := by
  cases entry with
  | outside _ empty => exact empty part rfl
  | measured isMeasured _ => cases isMeasured

/-- What is measured is held. -/
theorem mem_of_measured (entry : Entry content first step next) {handle : Handle}
    (isMeasured : step.measured? = some handle) : handle ∈ first.handles := by
  cases entry with
  | measured same member =>
      rw [isMeasured] at same
      cases same
      exact member
  | outside outside _ =>
      unfold Step.measured? at isMeasured
      split at isMeasured
      · cases outside
      · cases outside
      · cases isMeasured
  | _ => cases isMeasured

end Entry

namespace Accounts

theorem nil : Accounts content holding [] holding := ⟨by simp, by simp⟩

/-- Stretches of steps that account for what is held do so together. -/
theorem append (former : Accounts content first past next)
    (latter : Accounts content next future last) :
    Accounts content first (past ++ future) last := by
  constructor
  · rw [List.flatMap_append, List.flatMap_append, ← List.append_assoc, former.arrays,
      List.append_assoc, latter.arrays, List.append_assoc]
  · rw [List.flatMap_append, List.flatMap_append, ← List.append_assoc, former.handles,
      List.append_assoc, latter.handles, List.append_assoc]

end Accounts

namespace Ledger

theorem single (entry : Entry content first step next) : Ledger content first [step] next :=
  .cons entry .nil

theorem append (former : Ledger content first past next)
    (latter : Ledger content next future last) :
    Ledger content first (past ++ future) last := by
  induction former with
  | nil => exact latter
  | cons entry _ ih => exact .cons entry (ih latter)

/-- A ledger can be opened at any place. -/
theorem split (ledger : Ledger content first (past ++ future) last) :
    ∃ next, Ledger content first past next ∧ Ledger content next future last := by
  induction past generalizing first with
  | nil => exact ⟨first, .nil, ledger⟩
  | cons step rest ih =>
      cases ledger with
      | cons entry rest =>
          obtain ⟨next, former, latter⟩ := ih rest
          exact ⟨next, .cons entry former, latter⟩

/-- At the place of a step there is its entry. -/
theorem entry_of_split (ledger : Ledger content first (past ++ step :: future) last) :
    ∃ before after, Ledger content first past before ∧ Entry content before step after := by
  obtain ⟨before, former, latter⟩ := ledger.split
  cases latter with
  | cons entry _ => exact ⟨before, _, former, entry⟩

theorem accounts (ledger : Ledger content first steps last) :
    Accounts content first steps last := by
  induction ledger with
  | nil => exact .nil
  | cons entry _ ih => exact entry.accounts.append ih

theorem arrays_le (ledger : Ledger content first steps last) (one : first.arrays.length ≤ 1) :
    last.arrays.length ≤ 1 := by
  induction ledger with
  | nil => exact one
  | cons entry _ ih => exact ih (entry.arrays_le one)

/-- Without a look-up those who hold nothing come to hold nothing. -/
theorem eq_nothing (ledger : Ledger content .nothing steps last)
    (noLookup : ∀ step ∈ steps, step.lookedUp? = none) : last = .nothing := by
  induction steps with
  | nil =>
      cases ledger
      rfl
  | cons step rest ih =>
      cases ledger with
      | cons entry ledger =>
          cases entry.eq_nothing_of_not_lookup (noLookup step (by simp))
          exact ih ledger fun other member => noLookup other (by simp [member])

/-- A ledger with a look-up begins anew with the last one. -/
theorem last_lookup (ledger : Ledger content first steps last) :
    (∀ step ∈ steps, step.lookedUp? = none) ∨
      ∃ earlier lookup recent, steps = earlier ++ lookup :: recent ∧
        lookup.lookedUp?.isSome ∧ (∀ step ∈ recent, step.lookedUp? = none) ∧
        Ledger content .nothing (lookup :: recent) last := by
  induction ledger with
  | nil => exact .inl (by simp)
  | @cons first next last step steps entry rest ih =>
      rcases ih with noLookup | ⟨earlier, lookup, recent, rfl, isLookup, since, renewed⟩
      · cases isLookup : step.lookedUp? with
        | none => exact .inl (by simpa [isLookup] using noLookup)
        | some selector =>
            cases entry.eq_nothing_of_lookup isLookup
            exact .inr ⟨[], step, steps, rfl, by simp [isLookup], noLookup, .cons entry rest⟩
      · exact .inr ⟨step :: earlier, lookup, recent, rfl, isLookup, since, renewed⟩

/-- A run with a ledger that begins and ends with nothing is tidy. -/
theorem isTidy (ledger : Ledger content .nothing steps .nothing) : IsTidy content steps where
  balanced := ledger.accounts
  steady := by
    rintro past future rfl
    obtain ⟨holding, former, _⟩ := ledger.split
    exact ⟨holding, former.accounts, former.arrays_le (Nat.zero_le 1)⟩
  lookups := by
    rintro past step future selector rfl isLookup
    obtain ⟨before, after, former, entry⟩ := ledger.entry_of_split
    cases entry.eq_nothing_of_lookup isLookup
    exact former.accounts
  measured := by
    rintro past step future handle rfl isMeasured
    obtain ⟨before, after, former, entry⟩ := ledger.entry_of_split
    have held := entry.mem_of_measured isMeasured
    rcases former.last_lookup with noLookup | ⟨earlier, lookup, recent, split, found⟩
    · cases former.eq_nothing noLookup
      cases held
    · obtain ⟨isLookup, since, renewed⟩ := found
      exact ⟨earlier, lookup, recent, before, split, isLookup, since, renewed.accounts, held⟩
  closed := by
    rintro past part future rfl
    obtain ⟨before, after, former, entry⟩ := ledger.entry_of_split
    cases entry.eq_nothing_of_close
    exact former.accounts

/-- Steps outside a page need no entry of their own. -/
theorem of_outside (outside : ∀ step ∈ steps, step.IsOutside) :
    Ledger content .nothing steps .nothing := by
  induction steps with
  | nil => exact .nil
  | cons step rest ih =>
      have entry : Entry content .nothing step .nothing :=
        .outside (outside step (by simp)) fun _ _ => rfl
      exact .cons entry (ih fun other member => outside other (by simp [member]))

end Ledger

end CriticalCss.Browser
