import CriticalCss.Pruning

/-!
# What pruning is put together from

Pruning asks the document nothing but whether selectors are critical, one after the other.
So whatever sequencing keeps holds of pruning as soon as it holds of classifying a
selector.  It is stated for a relation between passes over two kinds of elements; a
property of one pass is a relation that does not look at the other.  One such property is
how elements are measured: with nothing to clear.
-/

namespace CriticalCss

/-- A value does not fit where pruning meets it.  Pruning itself ends with no other faults. -/
def Fault.isMisfit : Fault → Bool
  | .notIterable _ | .noMember _ _ | .unhashable _ | .unordered _ _ _ | .notSearchable _
  | .startOfBytes => true
  | _ => false

namespace Pass

/-- A relation between passes holds of the parts of pruning: of passes that ask nothing, which
give a result or find that a value does not fit, and of classifying a selector; and sequencing
keeps it. -/
structure HoldsOfParts {ε ε' : Type} (options : Options)
    (related : ∀ α : Type, Pass ε α → Pass ε' α → Prop) : Prop where
  give : ∀ {α : Type} (result : α), related α (Pass.done (.ok result)) (Pass.done (.ok result))
  refuse : ∀ {α : Type} {fault : Fault}, fault.isMisfit = true →
    related α (Pass.done (.error fault)) (Pass.done (.error fault))
  note : ∀ {α : Type} (event : Event) {rest : Pass ε α} {rest' : Pass ε' α},
    related α rest rest' → related α (Pass.note event rest) (Pass.note event rest')
  bind : ∀ {α β : Type} {pass : Pass ε α} {pass' : Pass ε' α} {next : α → Pass ε β}
    {next' : α → Pass ε' β}, related α pass pass' →
    (∀ result, related β (next result) (next' result)) →
    related β (pass.bind next) (pass'.bind next')
  isCritical : ∀ selector : Value,
    related Bool (Pass.isCritical options selector) (Pass.isCritical options selector)

namespace HoldsOfParts

variable {ε ε' : Type} {options : Options}
variable {related : ∀ α : Type, Pass ε α → Pass ε' α → Prop}
variable (parts : HoldsOfParts options related)

include parts

theorem elementsOf (value : Value) :
    related _ (Pass.elementsOf value) (Pass.elementsOf value) := by
  unfold Pass.elementsOf
  split
  · exact parts.give _
  · exact parts.refuse rfl

theorem refuseElements (value : Value) :
    related _ (Pass.refuseElements value) (Pass.refuseElements value) := by
  refine parts.bind (parts.elementsOf value) fun elements => ?_
  cases elements with
  | nil => exact parts.give _
  | cons element rest => exact parts.refuse rfl

theorem criticalSelectors (selectors : List Value) :
    related _ (Pass.criticalSelectors options selectors)
      (Pass.criticalSelectors options selectors) := by
  induction selectors with
  | nil => exact parts.give _
  | cons selector rest ih =>
      refine parts.bind (parts.isCritical selector) fun _ => ?_
      exact parts.bind ih fun _ => parts.give _

theorem pruneRule (fields : Fields) :
    related _ (Pass.pruneRule options fields) (Pass.pruneRule options fields) := by
  refine parts.bind (parts.elementsOf _) fun selectors => ?_
  refine parts.bind (parts.criticalSelectors selectors) fun kept => ?_
  cases kept.isEmpty <;> exact parts.give _

mutual

theorem pruneNode (node : Value) :
    related _ (Pass.pruneNode options node) (Pass.pruneNode options node) := by
  cases node with
  | object fields =>
      simp only [Pass.pruneNode]
      split
      next unknown =>
        unfold NodeClass.ofType at unknown
        split at unknown <;> cases unknown <;> exact parts.refuse rfl
      · exact parts.pruneRule fields
      · exact parts.give _
      · refine parts.bind (pruneNested fields) fun nested => ?_
        cases nested.isEmpty <;> exact parts.give _
      · exact parts.note _ (parts.give _)
  | _ => exact parts.refuse rfl

theorem pruneNodes (nodes : List Value) :
    related _ (Pass.pruneNodes options nodes) (Pass.pruneNodes options nodes) := by
  cases nodes with
  | nil => exact parts.give _
  | cons node rest =>
      refine parts.bind (pruneNode node) fun _ => ?_
      exact parts.bind (pruneNodes rest) fun _ => parts.give _

theorem pruneNested (fields : List (String × Value)) :
    related _ (Pass.pruneNested options fields) (Pass.pruneNested options fields) := by
  match fields with
  | [] => exact parts.give _
  | (key, value) :: rest =>
      rw [Pass.pruneNested.eq_def, Pass.pruneNested.eq_def]
      by_cases isRules : key = "rules"
      · simp only [if_pos isRules]
        cases value with
        | list nodes => exact pruneNodes nodes
        | _ => exact parts.refuseElements _
      · simp only [if_neg isRules]
        exact pruneNested rest

end

/-- What holds of the parts of pruning holds of pruning. -/
theorem prune (rules : Value) :
    related _ (Pass.prune options rules) (Pass.prune options rules) := by
  refine parts.bind (parts.elementsOf rules) fun nodes => ?_
  refine parts.bind (parts.pruneNodes nodes) fun _ => ?_
  exact parts.note _ (parts.give _)

end HoldsOfParts

/-! ## How elements are measured -/

section

variable {ε α β : Type}

/-- Whatever is answered, elements are measured with nothing to clear. -/
def IsUncleared : Pass ε α → Prop
  | done _ => True
  | note _ rest => rest.IsUncleared
  | query _ next => ∀ reply, (next reply).IsUncleared
  | top clear _ next => clear = "none" ∧ ∀ reply, (next reply).IsUncleared
  | position _ next => ∀ reply, (next reply).IsUncleared

theorem IsUncleared.bind {pass : Pass ε α} {next : α → Pass ε β} (first : pass.IsUncleared)
    (rest : ∀ result, (next result).IsUncleared) : (pass.bind next).IsUncleared := by
  induction pass with
  | done outcome =>
      cases outcome with
      | ok result => exact rest result
      | error fault => trivial
  | note event _ ih => exact ih first
  | query _ answer ih | position _ answer ih =>
      intro reply
      exact ih reply (first reply)
  | top clear element answer ih =>
      obtain ⟨none, onward⟩ := first
      exact ⟨none, fun reply => ih reply (onward reply)⟩

theorem isAboveFold_isUncleared (height : Value) (element : ε) :
    (isAboveFold height element).IsUncleared := by
  refine ⟨rfl, fun reply => ?_⟩
  cases reply with
  | error fault => trivial
  | ok top =>
      simp only [Pass.bind]
      cases top.less height with
      | error kinds => trivial
      | ok above =>
          cases above with
          | true => trivial
          | false =>
              intro reply
              cases reply with
              | error fault => trivial
              | ok position =>
                  simp only [Pass.bind]
                  cases position.isText "fixed" <;> trivial

theorem anyAboveFold_isUncleared (height : Value) (elements : List ε) :
    (anyAboveFold height elements).IsUncleared := by
  induction elements with
  | nil => trivial
  | cons element rest ih =>
      refine (isAboveFold_isUncleared height element).bind fun above => ?_
      cases above with
      | true => trivial
      | false => exact ih

theorem isCritical_isUncleared (options : Options) (selector : Value) :
    (isCritical options selector : Pass ε Bool).IsUncleared := by
  simp only [isCritical]
  split
  next selector =>
    rw [isCriticalText]
    split
    · trivial
    split
    · trivial
    split
    · trivial
    · intro reply
      cases reply with
      | ok elements => exact anyAboveFold_isUncleared _ elements
      | error fault => cases fault <;> trivial
  · split <;> trivial
  · trivial

/-- Pruning measures elements with nothing to clear. -/
theorem prune_isUncleared (options : Options) (rules : Value) :
    (prune options rules : Pass ε (List Value)).IsUncleared := by
  have parts : HoldsOfParts options fun _ (pass _ : Pass ε _) => pass.IsUncleared := {
    give := fun _ => trivial
    refuse := fun _ => trivial
    note := fun _ _ _ uncleared => uncleared
    bind := .bind
    isCritical := isCritical_isUncleared options }
  exact parts.prune rules

end

end Pass

end CriticalCss
