import CriticalCss.Proofs.Fields
import CriticalCss.Pruning
import Mathlib.Tactic.Push

/-!
# What survives pruning

Survival is a matter of places.  A node can survive only if every node around it is a
group; then a rule survives through one of its selectors, a group through one of the
nodes in it, and a leaf in any case.  What is left of a forest is the forest without the
nodes and selectors at all other places: nothing is moved, repeated or renamed, and an
object keeps its keys.
-/

namespace CriticalCss

/-- A place in a forest: the indices of the nodes on the way down to it. -/
abbrev Place := List Nat

namespace Fields

/-- The node is a plain rule. -/
def IsRule (fields : Fields) : Prop := fields.get? "type" = some (.text "rule")

/-- The node is one of those that stay as they are. -/
def IsLeaf (fields : Fields) : Prop :=
  ∃ type ∈ leafTypes, fields.get? "type" = some (.text type)

/-- The node holds rules of its own. -/
def IsGroup (fields : Fields) : Prop :=
  ∃ type ∈ groupTypes, fields.get? "type" = some (.text type)

end Fields

/-- A node stands at a place, and every node around it is a group. -/
inductive Exposed : List Value → Place → Fields → Prop where
  | top {forest : List Value} {index : Nat} {fields : Fields} :
      forest[index]? = some (.object fields) → Exposed forest [index] fields
  | inner {forest : List Value} {index : Nat} {group : Fields} {place : Place}
      {fields : Fields} :
      forest[index]? = some (.object group) → group.IsGroup →
      Exposed (group.listAt "rules") place fields → Exposed forest (index :: place) fields

/-- A selector survives: it is critical, and its node is an exposed rule. -/
def SelectorSurvives (critical : String → Prop) (forest : List Value) (place : Place)
    (index : Nat) : Prop :=
  ∃ fields selector, Exposed forest place fields ∧ fields.IsRule ∧
    (fields.listAt "selectors")[index]? = some (.text selector) ∧ critical selector

/-- A node survives. -/
inductive Survives (critical : String → Prop) (forest : List Value) : Place → Prop where
  | leaf {place : Place} {fields : Fields} :
      Exposed forest place fields → fields.IsLeaf → Survives critical forest place
  | rule {place : Place} {index : Nat} :
      SelectorSurvives critical forest place index → Survives critical forest place
  | group {place : Place} {fields : Fields} {index : Nat} :
      Exposed forest place fields → fields.IsGroup →
      Survives critical forest (place ++ [index]) → Survives critical forest place

/-! ## What is left -/

/-- What is left of items with indices from `index` on: those at indices that satisfy a
condition, each once and in their order. -/
inductive Thinned {α : Type} (keeps : Nat → Prop) : (index : Nat) → List α → List α → Prop where
  | nil {index : Nat} : Thinned keeps index [] []
  | keep {index : Nat} {item : α} {items left : List α} :
      keeps index → Thinned keeps (index + 1) items left →
      Thinned keeps index (item :: items) (item :: left)
  | drop {index : Nat} {item : α} {items left : List α} :
      ¬keeps index → Thinned keeps (index + 1) items left →
      Thinned keeps index (item :: items) left

mutual

/-- What is left of a node at a place, given the places of the nodes and of the selectors
that stay.  Only the list that is thinned changes. -/
inductive LeftNode (nodes : Place → Prop) (selectors : Place → Nat → Prop) :
    Place → Value → Value → Prop where
  | leaf {place : Place} {fields : Fields} :
      fields.IsLeaf → LeftNode nodes selectors place (.object fields) (.object fields)
  | rule {place : Place} {before after : Fields} {left : List Value} :
      before.IsRule → Fields.Replaces "selectors" (.list left) before after →
      Thinned (selectors place) 0 (before.listAt "selectors") left →
      LeftNode nodes selectors place (.object before) (.object after)
  | group {place : Place} {before after : Fields} {left : List Value} :
      before.IsGroup → Fields.Replaces "rules" (.list left) before after →
      LeftNodes nodes selectors place 0 (before.listAt "rules") left →
      LeftNode nodes selectors place (.object before) (.object after)

/-- What is left of the nodes right below a place, from an index on. -/
inductive LeftNodes (nodes : Place → Prop) (selectors : Place → Nat → Prop) :
    Place → (index : Nat) → List Value → List Value → Prop where
  | nil {place : Place} {index : Nat} : LeftNodes nodes selectors place index [] []
  | keep {place : Place} {index : Nat} {node image : Value} {rest left : List Value} :
      nodes (place ++ [index]) → LeftNode nodes selectors (place ++ [index]) node image →
      LeftNodes nodes selectors place (index + 1) rest left →
      LeftNodes nodes selectors place index (node :: rest) (image :: left)
  | drop {place : Place} {index : Nat} {node : Value} {rest left : List Value} :
      ¬nodes (place ++ [index]) → LeftNodes nodes selectors place (index + 1) rest left →
      LeftNodes nodes selectors place index (node :: rest) left

end

/-- What is left of a forest without the nodes and selectors that do not survive. -/
def LeftOf (critical : String → Prop) (forest left : List Value) : Prop :=
  LeftNodes (Survives critical forest) (SelectorSurvives critical forest) [] 0 forest left

theorem Thinned.ne_nil {α : Type} {keeps : Nat → Prop} {index : Nat} {items left : List α}
    (thinned : Thinned keeps index items left) (nonempty : left ≠ []) : items ≠ [] := by
  rintro rfl
  cases thinned
  exact nonempty rfl

theorem LeftNodes.ne_nil {nodes : Place → Prop} {selectors : Place → Nat → Prop}
    {place : Place} {index : Nat} {forest left : List Value}
    (leftNodes : LeftNodes nodes selectors place index forest left) (nonempty : left ≠ []) :
    forest ≠ [] := by
  rintro rfl
  cases leftNodes
  exact nonempty rfl

/-- Nothing is kept from an index on exactly if the index itself is not kept and nothing is
kept after it. -/
theorem none_from_iff {keeps : Nat → Prop} {index count : Nat} :
    (∀ offset < count + 1, ¬keeps (index + offset)) ↔
      ¬keeps index ∧ ∀ offset < count, ¬keeps (index + 1 + offset) := by
  rw [Nat.forall_lt_succ_left]
  simp only [Nat.add_zero, Nat.add_right_comm index 1, Nat.add_assoc]

theorem Thinned.eq_nil_iff {α : Type} {keeps : Nat → Prop} {index : Nat}
    {items left : List α} (thinned : Thinned keeps index items left) :
    left = [] ↔ ∀ offset < items.length, ¬keeps (index + offset) := by
  induction thinned with
  | nil => simp
  | keep kept _ _ =>
      rw [List.length_cons, none_from_iff]
      simp [kept]
  | drop dropped _ ih =>
      rw [ih, List.length_cons, none_from_iff]
      simp [dropped]

theorem LeftNodes.eq_nil_iff {nodes : Place → Prop} {selectors : Place → Nat → Prop}
    {place : Place} {index : Nat} {forest left : List Value}
    (leftNodes : LeftNodes nodes selectors place index forest left) :
    left = [] ↔ ∀ offset < forest.length, ¬nodes (place ++ [index + offset]) := by
  induction forest generalizing index left with
  | nil =>
      cases leftNodes
      simp
  | cons node rest ih =>
      have split := @none_from_iff (fun index => nodes (place ++ [index])) index rest.length
      rw [List.length_cons, split]
      cases leftNodes with
      | keep kept _ _ => simp [kept]
      | drop dropped others => simp [ih others, dropped]

/-! ## The types of nodes -/

namespace NodeClass

theorem ofText_eq_rule {type : String} : ofText type = rule ↔ type = "rule" := by
  unfold ofText
  split
  · simp_all
  · split
    · simp_all
    · split <;> simp_all

theorem ofText_eq_leaf {type : String} : ofText type = leaf ↔ type ∈ leafTypes := by
  unfold ofText
  split
  · simp_all [leafTypes]
  · split
    · simp_all
    · split <;> simp_all

theorem ofText_eq_group {type : String} : ofText type = group ↔ type ∈ groupTypes := by
  unfold ofText
  split
  · simp_all [groupTypes]
  · split
    · next isLeaf =>
        simp only [List.contains_eq_mem, decide_eq_true_eq] at isLeaf
        simp only [reduceCtorEq, false_iff]
        intro isGroup
        simp only [leafTypes, groupTypes, List.mem_cons, List.not_mem_nil, or_false]
          at isLeaf isGroup
        rcases isGroup with rfl | rfl | rfl <;> simp at isLeaf
    · split <;> simp_all

end NodeClass

namespace Fields

variable {fields : Fields} {type : String}

theorem isRule_iff (typed : fields.get? "type" = some (.text type)) :
    fields.IsRule ↔ NodeClass.ofText type = .rule := by
  rw [NodeClass.ofText_eq_rule, IsRule, typed]
  simp

theorem isLeaf_iff (typed : fields.get? "type" = some (.text type)) :
    fields.IsLeaf ↔ NodeClass.ofText type = .leaf := by
  rw [NodeClass.ofText_eq_leaf, IsLeaf, typed]
  simp

theorem isGroup_iff (typed : fields.get? "type" = some (.text type)) :
    fields.IsGroup ↔ NodeClass.ofText type = .group := by
  rw [NodeClass.ofText_eq_group, IsGroup, typed]
  simp

theorem IsLeaf.not_isRule (isLeaf : fields.IsLeaf) : ¬fields.IsRule := by
  have ⟨_, _, typed⟩ := isLeaf
  rw [isRule_iff typed, (isLeaf_iff typed).mp isLeaf]
  simp

theorem IsGroup.not_isRule (isGroup : fields.IsGroup) : ¬fields.IsRule := by
  have ⟨_, _, typed⟩ := isGroup
  rw [isRule_iff typed, (isGroup_iff typed).mp isGroup]
  simp

theorem IsGroup.not_isLeaf (isGroup : fields.IsGroup) : ¬fields.IsLeaf := by
  have ⟨_, _, typed⟩ := isGroup
  rw [isLeaf_iff typed, (isGroup_iff typed).mp isGroup]
  simp

end Fields

/-! ## What is left is determined -/

theorem Thinned.unique {α : Type} {keeps : Nat → Prop} {index : Nat}
    {items left other : List α} (thinned : Thinned keeps index items left)
    (again : Thinned keeps index items other) : left = other := by
  induction thinned generalizing other with
  | nil => cases again; rfl
  | keep kept _ ih =>
      cases again with
      | keep _ rest => rw [ih rest]
      | drop dropped _ => exact absurd kept dropped
  | drop dropped _ ih =>
      cases again with
      | keep kept _ => exact absurd kept dropped
      | drop _ rest => exact ih rest

section

variable {nodes : Place → Prop} {selectors : Place → Nat → Prop}

mutual

theorem LeftNode.unique {place : Place} {node left other : Value} :
    LeftNode nodes selectors place node left → LeftNode nodes selectors place node other →
      left = other
  | .leaf _, .leaf _ => rfl
  | .leaf isLeaf, .rule isRule _ _ => absurd isRule isLeaf.not_isRule
  | .leaf isLeaf, .group isGroup _ _ => absurd isLeaf isGroup.not_isLeaf
  | .rule isRule _ _, .leaf isLeaf => absurd isRule isLeaf.not_isRule
  | .rule _ replaces thinned, .rule _ replacesAgain again => by
      cases thinned.unique again
      rw [replaces.eq_put, replacesAgain.eq_put]
  | .rule isRule _ _, .group isGroup _ _ => absurd isRule isGroup.not_isRule
  | .group isGroup _ _, .leaf isLeaf => absurd isLeaf isGroup.not_isLeaf
  | .group isGroup _ _, .rule isRule _ _ => absurd isRule isGroup.not_isRule
  | .group _ replaces leftNodes, .group _ replacesAgain again => by
      cases leftNodes.unique again
      rw [replaces.eq_put, replacesAgain.eq_put]

theorem LeftNodes.unique {place : Place} {index : Nat} {forest left other : List Value} :
    LeftNodes nodes selectors place index forest left →
      LeftNodes nodes selectors place index forest other → left = other
  | .nil, .nil => rfl
  | .keep _ leftNode rest, .keep _ again restAgain => by
      rw [leftNode.unique again, rest.unique restAgain]
  | .keep kept _ _, .drop dropped _ => absurd kept dropped
  | .drop dropped _, .keep kept _ _ => absurd kept dropped
  | .drop _ rest, .drop _ restAgain => rest.unique restAgain

end

end

/-! ## Exposed nodes -/

namespace Exposed

variable {forest : List Value} {place : Place} {index : Nat} {fields group child : Fields}

/-- At a place stands at most one node. -/
theorem unique {other : Fields} (exposed : Exposed forest place fields)
    (again : Exposed forest place other) : fields = other := by
  induction exposed with
  | top found =>
      cases again with
      | top foundAgain =>
          rw [found] at foundAgain
          simpa using foundAgain
      | inner _ _ empty => cases empty
  | inner found _ below ih =>
      cases again with
      | top _ => cases below
      | inner foundAgain _ belowAgain =>
          rw [found] at foundAgain
          cases foundAgain
          exact ih belowAgain

/-- The nodes in an exposed group are exposed. -/
theorem snoc (exposed : Exposed forest place group) (isGroup : group.IsGroup)
    (found : (group.listAt "rules")[index]? = some (.object child)) :
    Exposed forest (place ++ [index]) child := by
  induction exposed with
  | top foundGroup => exact .inner foundGroup isGroup (.top found)
  | inner foundOuter outer _ ih => exact .inner foundOuter outer (ih isGroup found)

/-- What is exposed below a place at the top is exposed in the group that stands there. -/
theorem inside_group {outer : Nat} (exposed : Exposed forest (outer :: place) fields)
    (deeper : place ≠ []) (found : forest[outer]? = some (.object group)) :
    Exposed (group.listAt "rules") place fields := by
  cases exposed with
  | top _ => exact absurd rfl deeper
  | inner foundAgain _ inside =>
      rw [found] at foundAgain
      cases foundAgain
      exact inside

/-- An exposed node in a group is one of the nodes of the group. -/
theorem getElem?_of_snoc (outer : Exposed forest place group)
    (exposed : Exposed forest (place ++ [index]) child) :
    (group.listAt "rules")[index]? = some (.object child) := by
  induction outer with
  | top found =>
      cases exposed.inside_group (List.cons_ne_nil _ _) found with
      | top foundChild => exact foundChild
      | inner _ _ empty => cases empty
  | inner found _ _ ih => exact ih (exposed.inside_group (by simp) found)

end Exposed

/-! ## Why a node survives -/

section

variable {critical : String → Prop} {forest : List Value} {place : Place} {fields : Fields}
variable {type : String} {index : Nat} {left : List Value}

/-- A surviving selector is one of the selectors of its node. -/
theorem SelectorSurvives.lt_length (survivor : SelectorSurvives critical forest place index)
    (exposed : Exposed forest place fields) :
    index < (fields.listAt "selectors").length := by
  obtain ⟨_, _, again, _, found, _⟩ := survivor
  cases exposed.unique again
  exact (List.getElem?_eq_some_iff.mp found).1

/-- A surviving node is exposed. -/
theorem Survives.exposed (survivor : Survives critical forest place) :
    ∃ fields, Exposed forest place fields := by
  cases survivor with
  | leaf exposed _ | group exposed _ _ => exact ⟨_, exposed⟩
  | rule selector =>
      obtain ⟨fields, _, exposed, _⟩ := selector
      exact ⟨fields, exposed⟩

/-- A surviving node in an exposed group is one of the nodes of the group. -/
theorem Survives.lt_length (survivor : Survives critical forest (place ++ [index]))
    (exposed : Exposed forest place fields) :
    index < (fields.listAt "rules").length := by
  obtain ⟨child, inside⟩ := survivor.exposed
  exact (List.getElem?_eq_some_iff.mp (exposed.getElem?_of_snoc inside)).1

/-- Why a node survives, by the class of its type. -/
theorem survives_iff (exposed : Exposed forest place fields)
    (typed : fields.get? "type" = some (.text type)) :
    Survives critical forest place ↔
      match NodeClass.ofText type with
      | .rule => ∃ index, SelectorSurvives critical forest place index
      | .leaf => True
      | .group => ∃ index, Survives critical forest (place ++ [index])
      | .unsupported => False := by
  constructor
  · rintro (⟨again, isLeaf⟩ | survivor | ⟨again, isGroup, survivor⟩)
    · cases exposed.unique again
      simp [(Fields.isLeaf_iff typed).mp isLeaf]
    · have ⟨_, _, again, isRule, _⟩ := survivor
      cases exposed.unique again
      rw [(Fields.isRule_iff typed).mp isRule]
      exact ⟨_, survivor⟩
    · cases exposed.unique again
      rw [(Fields.isGroup_iff typed).mp isGroup]
      exact ⟨_, survivor⟩
  · intro reason
    split at reason
    next =>
      obtain ⟨_, survivor⟩ := reason
      exact .rule survivor
    next isLeaf => exact .leaf exposed ((Fields.isLeaf_iff typed).mpr isLeaf)
    next isGroup =>
      obtain ⟨_, survivor⟩ := reason
      exact .group exposed ((Fields.isGroup_iff typed).mpr isGroup) survivor
    next => exact reason.elim

/-- A rule survives exactly if something is left of its selectors. -/
theorem survives_iff_selectors_left (exposed : Exposed forest place fields)
    (isRule : fields.IsRule)
    (thinned : Thinned (SelectorSurvives critical forest place) 0
      (fields.listAt "selectors") left) :
    Survives critical forest place ↔ left ≠ [] := by
  rw [survives_iff exposed isRule, Ne, thinned.eq_nil_iff]
  push Not
  constructor
  · rintro ⟨index, survivor⟩
    exact ⟨index, survivor.lt_length exposed, by rwa [Nat.zero_add]⟩
  · rintro ⟨offset, _, survivor⟩
    exact ⟨_, survivor⟩

/-- A group survives exactly if something is left of its rules. -/
theorem survives_iff_rules_left (exposed : Exposed forest place fields)
    (isGroup : fields.IsGroup) {selectors : Place → Nat → Prop}
    (leftNodes : LeftNodes (Survives critical forest) selectors place 0
      (fields.listAt "rules") left) :
    Survives critical forest place ↔ left ≠ [] := by
  obtain ⟨type, isKnown, typed⟩ := isGroup
  rw [survives_iff exposed typed, NodeClass.ofText_eq_group.mpr isKnown, Ne,
    leftNodes.eq_nil_iff]
  push Not
  constructor
  · rintro ⟨index, survivor⟩
    exact ⟨index, survivor.lt_length exposed, by rwa [Nat.zero_add]⟩
  · rintro ⟨offset, _, survivor⟩
    exact ⟨_, survivor⟩

end

end CriticalCss
