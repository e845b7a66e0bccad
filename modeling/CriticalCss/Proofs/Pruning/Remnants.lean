import CriticalCss.Proofs.Json.Documents
import CriticalCss.Proofs.Pruning.Survival

/-!
# What pruning may leave

Which selectors are critical is for the page to say.  Whatever it says, pruning leaves
remnants: leaves as they are, rules with some of their selectors, and groups with remnants of
their rules, and no rule or group that has become empty.  Remnants have the shape that is
required of nodes whenever the nodes themselves have it.
-/

namespace CriticalCss

mutual

/-- A node as it may be left. -/
inductive Remnant : Value → Value → Prop where
  | leaf {fields : Fields} : fields.IsLeaf → Remnant (.object fields) (.object fields)
  | rule {fields : Fields} {left : List Value} :
      fields.IsRule → left ≠ [] → left.Sublist (fields.listAt "selectors") →
      Remnant (.object fields) (.object (fields.put "selectors" (.list left)))
  | group {fields : Fields} {left : List Value} :
      fields.IsGroup → left ≠ [] → Remnants (fields.listAt "rules") left →
      Remnant (.object fields) (.object (fields.put "rules" (.list left)))

/-- Some of the nodes of a list, in order, each as it may be left. -/
inductive Remnants : List Value → List Value → Prop where
  | nil : Remnants [] []
  | keep {node image : Value} {nodes left : List Value} :
      Remnant node image → Remnants nodes left → Remnants (node :: nodes) (image :: left)
  | drop {node : Value} {nodes left : List Value} :
      Remnants nodes left → Remnants (node :: nodes) left

end

/-- A rule has selectors, and a group has rules. -/
structure Fields.IsFilled (fields : Fields) : Prop where
  selectors : fields.IsRule → fields.listAt "selectors" ≠ []
  rules : fields.IsGroup → fields.listAt "rules" ≠ []

namespace Fields

variable {fields : Fields} {key other : String} {value : Value} {items : List Value}

theorem get?_put : (fields.put key value).get? other =
    if key = other then some value else fields.get? other := by
  induction fields with
  | nil =>
      rw [put, get?_cons]
  | cons field rest ih =>
      obtain ⟨name, held⟩ := field
      by_cases here : name = key
      · subst here
        by_cases same : name = other <;> simp [put, get?_cons, same]
      · by_cases same : name = other
        · subst same
          simp [put, get?_cons, here, Ne.symm here]
        · simp [put, get?_cons, here, same, ih]

theorem get?_put_self : (fields.put key value).get? key = some value := by
  rw [get?_put, if_pos rfl]

theorem get?_put_of_ne (different : key ≠ other) :
    (fields.put key value).get? other = fields.get? other := by
  rw [get?_put, if_neg different]

theorem listAt_put : (fields.put key (.list items)).listAt key = items :=
  listAt_of_get? get?_put_self

/-- Setting another key leaves the type of a node alone. -/
theorem isRule_put (different : key ≠ "type") : (fields.put key value).IsRule ↔ fields.IsRule := by
  rw [IsRule, IsRule, get?_put_of_ne different]

theorem isGroup_put (different : key ≠ "type") :
    (fields.put key value).IsGroup ↔ fields.IsGroup := by
  simp only [IsGroup, get?_put_of_ne different]

end Fields

/-! ## Lists of remnants -/

namespace Remnants

variable {nodes others left more : List Value}

theorem append (remnants : Remnants nodes left) (further : Remnants others more) :
    Remnants (nodes ++ others) (left ++ more) := by
  induction nodes generalizing left with
  | nil =>
      cases remnants
      exact further
  | cons node rest ih =>
      cases remnants with
      | keep remnant remnants => exact .keep remnant (ih remnants)
      | drop remnants => exact .drop (ih remnants)

/-- Nothing is left of no nodes. -/
theorem eq_nil (remnants : Remnants nodes left) (none : nodes = []) : left = [] := by
  subst none
  cases remnants
  rfl

end Remnants

/-! ## Nothing that is left is empty -/

theorem Remnants.exists_of_mem {nodes left : List Value} {image : Value} :
    Remnants nodes left → image ∈ left → ∃ node, Remnant node image
  | .keep remnant remnants, member => by
      rcases List.mem_cons.mp member with rfl | inRest
      · exact ⟨_, remnant⟩
      · exact remnants.exists_of_mem inRest
  | .drop remnants, member => remnants.exists_of_mem member

theorem Remnant.isFilled {node : Value} {fields : Fields}
    (remnant : Remnant node (.object fields)) : fields.IsFilled := by
  cases remnant with
  | leaf isLeaf =>
      exact ⟨fun isRule => absurd isRule isLeaf.not_isRule,
        fun isGroup => absurd isLeaf isGroup.not_isLeaf⟩
  | rule isRule nonempty _ =>
      refine ⟨fun _ => by rwa [Fields.listAt_put], fun isGroup => ?_⟩
      rw [Fields.isGroup_put (by decide)] at isGroup
      exact absurd isRule isGroup.not_isRule
  | group isGroup nonempty _ =>
      refine ⟨fun isRule => ?_, fun _ => by rwa [Fields.listAt_put]⟩
      rw [Fields.isRule_put (by decide)] at isRule
      exact absurd isRule isGroup.not_isRule

/-- What is left in a group are remnants. -/
theorem Remnant.inside_group {node : Value} {fields : Fields}
    (remnant : Remnant node (.object fields)) (isGroup : fields.IsGroup) :
    ∃ nodes, Remnants nodes (fields.listAt "rules") := by
  cases remnant with
  | leaf isLeaf => exact absurd isLeaf isGroup.not_isLeaf
  | rule isRule _ _ =>
      rw [Fields.isGroup_put (by decide)] at isGroup
      exact absurd isRule isGroup.not_isRule
  | group _ _ remnants =>
      rw [Fields.listAt_put]
      exact ⟨_, remnants⟩

/-- A remnant is filled, at every level that is pruned. -/
theorem Remnants.isFilled {nodes left : List Value} {place : Place} {fields : Fields}
    (remnants : Remnants nodes left) (exposed : Exposed left place fields) : fields.IsFilled := by
  induction exposed generalizing nodes with
  | top found =>
      obtain ⟨node, remnant⟩ := remnants.exists_of_mem (List.mem_of_getElem? found)
      exact remnant.isFilled
  | inner found isGroup _ ih =>
      obtain ⟨node, remnant⟩ := remnants.exists_of_mem (List.mem_of_getElem? found)
      obtain ⟨inside, remnantsInside⟩ := remnant.inside_group isGroup
      exact ih remnantsInside

/-! ## What is left inherits from the nodes -/

section

variable {holds : Value → Prop}

mutual

theorem Remnant.inherits (inherited : Value.IsInherited holds) {node image : Value} :
    Remnant node image → holds node → holds image
  | .leaf _, held => held
  | .rule _ _ sublist, held =>
      inherited.put held (inherited.list fun _ member =>
        inherited.listAt held _ (sublist.subset member))
  | .group _ _ remnants, held =>
      inherited.put held (inherited.list (remnants.inherit inherited (inherited.listAt held)))

theorem Remnants.inherit (inherited : Value.IsInherited holds) {nodes left : List Value} :
    Remnants nodes left → (∀ node ∈ nodes, holds node) → ∀ image ∈ left, holds image
  | .nil, _ => fun _ member => nomatch member
  | .keep remnant remnants, each => by
      rw [List.forall_mem_cons] at each ⊢
      exact ⟨remnant.inherits inherited each.1, remnants.inherit inherited each.2⟩
  | .drop remnants, each => remnants.inherit inherited (List.forall_mem_cons.mp each).2

end

end

/-! ## What is left has the required shape -/

namespace Stylesheet

theorem checkTexts_sublist {items left : List Value} {index other : Nat}
    (sublist : left.Sublist items) (accepted : checkTexts index items = []) :
    checkTexts other left = [] := by
  induction sublist generalizing index other with
  | slnil => rfl
  | cons item _ ih =>
      simp only [checkTexts, List.append_eq_nil_iff] at accepted
      exact ih accepted.2
  | cons_cons item _ ih =>
      simp only [checkTexts, List.append_eq_nil_iff, underIndex_eq_nil] at accepted ⊢
      exact ⟨accepted.1, ih accepted.2⟩

theorem checkRequired_put {check : Value → List Violation} {fields : Fields}
    {key other : String} {value : Value} (different : key ≠ other) :
    checkRequired check other (fields.put key value) = checkRequired check other fields := by
  rw [checkRequired, checkRequired, Fields.get?_put_of_ne different]

theorem checkOptional_put {check : Value → List Violation} {fields : Fields}
    {key other : String} {value : Value} (different : key ≠ other) :
    checkOptional check other (fields.put key value) = checkOptional check other fields := by
  rw [checkOptional, checkOptional, Fields.get?_put_of_ne different]

theorem checkOptional_put_self {check : Value → List Violation} {fields : Fields}
    {key : String} {value : Value} (accepted : check value = []) :
    checkOptional check key (fields.put key value) = [] := by
  rw [checkOptional, Fields.get?_put_self]
  exact underKey_eq_nil.mpr accepted

end Stylesheet

open Stylesheet

mutual

theorem Remnant.checkNode_eq_nil {levels : Nat} {node image : Value} :
    Remnant node image → checkNode levels node = [] → checkNode levels image = []
  | .leaf _, accepted => accepted
  | .rule _ _ sublist, accepted => by
      rw [checkNode_object_eq_nil] at accepted ⊢
      obtain ⟨deep, typeOk, selectorsOk, rulesOk⟩ := accepted
      have listOk := checkTexts_of_optional selectorsOk
      refine ⟨deep, ?_, checkOptional_put_self (checkTexts_sublist sublist listOk), ?_⟩
      · rwa [checkRequired_put (by decide)]
      · rwa [checkOptional_put (by decide)]
  | @Remnant.group _ left _ _ remnants, accepted => by
      rw [checkNode_object_eq_nil] at accepted ⊢
      obtain ⟨deep, typeOk, selectorsOk, rulesOk⟩ := accepted
      have listOk : checkRules (levels - 1) (.list left) = [] := by
        rw [checkRules]
        exact remnants.checkNodes_eq_nil (checkNodes_of_optional rulesOk)
      refine ⟨deep, ?_, ?_, checkOptional_put_self listOk⟩
      · rwa [checkRequired_put (by decide)]
      · rwa [checkOptional_put (by decide)]

theorem Remnants.checkNodes_eq_nil {levels index other : Nat} {nodes left : List Value} :
    Remnants nodes left → checkNodes levels index nodes = [] → checkNodes levels other left = []
  | .nil, _ => by rw [checkNodes]
  | .keep remnant remnants, accepted => by
      simp only [checkNodes, List.append_eq_nil_iff, underIndex_eq_nil] at accepted ⊢
      exact ⟨remnant.checkNode_eq_nil accepted.1, remnants.checkNodes_eq_nil accepted.2⟩
  | .drop remnants, accepted => by
      simp only [checkNodes, List.append_eq_nil_iff] at accepted
      exact remnants.checkNodes_eq_nil accepted.2

end

/-- What may be left of accepted rules is accepted. -/
theorem Remnants.validateRules_eq_ok {nodes left : List Value} (remnants : Remnants nodes left)
    (accepted : validateRules (.list nodes) = .ok ()) : validateRules (.list left) = .ok () := by
  rw [validateRules_eq_ok_iff] at accepted ⊢
  exact remnants.checkNodes_eq_nil accepted

end CriticalCss
