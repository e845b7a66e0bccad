import CriticalCss.Proofs.Pruning.Remnants
import CriticalCss.Proofs.Pruning.SurvivalLaw

/-!
# What pruning does with a node

Pruning does one of five things with a node, whatever the options are: it thins the selectors
of a rule, prunes the rules of a group, lets a leaf be, drops what has another type, or fails
at what does not fit.  Whoever goes through these five, by induction on the nodes inside of
nodes, has gone through every tree, whether it is of the required shape or not; and the check
of a stylesheet refuses every tree that has a node of the fifth kind where pruning meets it.
-/

namespace CriticalCss

namespace Fields

variable {fields : Fields} {key : String}

/-- An object with what is left of the list under a key, or nothing if nothing is left. -/
def withLeft (fields : Fields) (key : String) (left : List Value) : Option Value :=
  if left.isEmpty then none else some (.object (fields.put key (.list left)))

theorem withLeft_eq_some {left : List Value} {image : Value}
    (stays : fields.withLeft key left = some image) :
    left ≠ [] ∧ image = .object (fields.put key (.list left)) := by
  cases left with
  | nil => cases stays
  | cons first rest =>
      cases stays
      exact ⟨by simp, rfl⟩

/-- The list of an object that has been thinned can be thinned further. -/
theorem withLeft_put (held : Value) (left : List Value) :
    (fields.put key held).withLeft key left = fields.withLeft key left := by
  rw [withLeft, withLeft, put_put]

/-- What iterating over the value of a key gives, and nothing if the key is absent. -/
def elementsAt (fields : Fields) (key : String) : Option (List Value) :=
  ((fields.get? key).getD (.list [])).elements?

theorem elementsAt_put {items : List Value} :
    (fields.put key (.list items)).elementsAt key = some items := by
  rw [elementsAt, get?_put_self]
  rfl

theorem holdsList_put {items : List Value} :
    (fields.put key (.list items)).HoldsList key := by
  intro value found
  rw [get?_put_self, Option.some.injEq] at found
  rw [listAt_put, found]

theorem sizeOf_lt_of_mem_listAt {item : Value} (member : item ∈ fields.listAt key) :
    sizeOf item < sizeOf (Value.object fields) := by
  unfold listAt at member
  split at member
  next items found =>
    have inside := List.sizeOf_lt_of_mem member
    have outside := sizeOf_lt_of_get? found
    simp only [Value.list.sizeOf_spec, Value.object.sizeOf_spec] at outside ⊢
    omega
  next => cases member

end Fields

/-- What holds of a node as soon as it holds of the nodes in it holds of every node. -/
theorem Value.node_induction {holds : Value → Prop}
    (node : ∀ node, (∀ fields, node = .object fields →
      ∀ child ∈ Fields.listAt fields "rules", holds child) → holds node) (value : Value) :
    holds value := by
  apply node
  intro fields same child member
  have smaller : sizeOf child < sizeOf value := same ▸ Fields.sizeOf_lt_of_mem_listAt member
  exact Value.node_induction node child
termination_by sizeOf value

namespace Pass

open Stylesheet

variable {ε : Type}

/-- What pruning does with a node. -/
inductive Handling (ε : Type) : Value → Prop where
  /-- A rule keeps some of its selectors. -/
  | rule {fields : Fields} {selectors : List Value} :
      fields.IsRule → fields.elementsAt "selectors" = some selectors →
      (∀ options, (pruneNode options (.object fields) : Pass ε (Option Value)) =
        (criticalSelectors options selectors).bind fun left =>
          done (.ok (fields.withLeft "selectors" left))) →
      Handling ε (.object fields)
  /-- A leaf stays as it is. -/
  | leaf {fields : Fields} :
      fields.IsLeaf →
      (∀ options, (pruneNode options (.object fields) : Pass ε (Option Value)) =
        done (.ok (some (.object fields)))) →
      Handling ε (.object fields)
  /-- A group keeps what is left of its rules. -/
  | group {fields : Fields} :
      fields.IsGroup →
      (∀ options, (pruneNode options (.object fields) : Pass ε (Option Value)) =
        (pruneNodes options (fields.listAt "rules")).bind fun left =>
          done (.ok (fields.withLeft "rules" left))) →
      Handling ε (.object fields)
  /-- A node of another type is dropped. -/
  | dropped {fields : Fields} {event : Event} :
      ¬fields.IsRule → ¬fields.IsGroup →
      (∀ options, (pruneNode options (.object fields) : Pass ε (Option Value)) =
        note event (done (.ok none))) →
      Handling ε (.object fields)
  /-- A node that does not fit ends the pass. -/
  | refused {node : Value} {fault : Fault} :
      (∀ levels, checkNode levels node ≠ []) →
      (∀ options, (pruneNode options node : Pass ε (Option Value)) = done (.error fault)) →
      Handling ε node

/-- Elements of which none is a node are gone through only if there are none. -/
theorem refuseElements_cases (value : Value) :
    value.elements? = some [] ∧ (refuseElements value : Pass ε (List Value)) = done (.ok []) ∨
      value.elements? ≠ some [] ∧
        ∃ fault, (refuseElements value : Pass ε (List Value)) = done (.error fault) := by
  simp only [refuseElements, elementsOf]
  cases value.elements? with
  | none => exact .inr ⟨by simp, _, rfl⟩
  | some items =>
      cases items with
      | nil => exact .inl ⟨rfl, rfl⟩
      | cons first rest => exact .inr ⟨by simp, _, rfl⟩

/-- What is no list under the key of the rules is gone through all the same. -/
theorem pruneNested_of_not_list (options : Options) {fields : Fields} {value : Value}
    (found : fields.get? "rules" = some value) (other : ∀ nodes, value ≠ .list nodes) :
    (pruneNested options fields : Pass ε (List Value)) = refuseElements value := by
  induction fields with
  | nil => simp [Fields.get?] at found
  | cons field rest ih =>
      obtain ⟨key, held⟩ := field
      rw [Fields.get?_cons] at found
      by_cases isRules : key = "rules"
      · rw [if_pos isRules] at found
        cases found
        rw [pruneNested.eq_def]
        simp only [if_pos isRules]
      · rw [if_neg isRules] at found
        rw [pruneNested_of_ne options held rest isRules]
        exact ih found

/-- The rules of a group are pruned where they stand, unless there are some that are no nodes. -/
theorem pruneNested_cases (fields : Fields) :
    (∀ options, (pruneNested options fields : Pass ε (List Value)) =
        pruneNodes options (fields.listAt "rules")) ∨
      (∀ levels, checkOptional (checkRules levels) "rules" fields ≠ []) ∧
        ∃ fault, ∀ options, (pruneNested options fields : Pass ε (List Value)) =
          done (.error fault) := by
  by_cases listed : fields.HoldsList "rules"
  · exact .inl fun options => pruneNested_eq options listed
  obtain ⟨value, found, notThere⟩ :
      ∃ value, fields.get? "rules" = some value ∧ value ≠ .list (fields.listAt "rules") := by
    simpa [Fields.HoldsList] using listed
  have other (nodes : List Value) : value ≠ .list nodes := by
    rintro rfl
    exact notThere (by rw [Fields.listAt_of_get? found])
  have nothing : fields.listAt "rules" = [] := by
    unfold Fields.listAt
    split
    next nodes isList =>
      rw [found] at isList
      exact absurd (Option.some.inj isList) (other nodes)
    next => rfl
  rcases @refuseElements_cases ε value with ⟨-, passed⟩ | ⟨unlisted, fault, failed⟩
  · left
    intro options
    rw [pruneNested_of_not_list options found other, passed, nothing]
    simp [pruneNodes]
  · right
    refine ⟨fun levels accepted => ?_, fault, fun options => ?_⟩
    · rw [checkOptional, found, underKey_eq_nil, checkRules.eq_def] at accepted
      split at accepted
      next nodes => exact other nodes rfl
      next => exact unlisted rfl
      next => simp [unmet] at accepted
    · rw [pruneNested_of_not_list options found other, failed]

/-- The selectors of a rule can be gone through, or the check refuses them. -/
theorem elementsAt_cases (fields : Fields) :
    (∃ selectors, fields.elementsAt "selectors" = some selectors) ∨
      fields.elementsAt "selectors" = none ∧
        checkOptional checkSelectors "selectors" fields ≠ [] := by
  cases elements : fields.elementsAt "selectors" with
  | some selectors => exact .inl ⟨selectors, rfl⟩
  | none =>
      refine .inr ⟨rfl, fun accepted => ?_⟩
      unfold Fields.elementsAt at elements
      unfold checkOptional at accepted
      cases found : fields.get? "selectors" with
      | none => simp [found, Value.elements?] at elements
      | some value =>
          simp only [found, Option.getD_some] at elements
          simp only [found, underKey_eq_nil, checkSelectors] at accepted
          split at accepted
          · simp [Value.elements?] at elements
          · simp [Value.elements?] at elements
          · simp [unmet] at accepted

/-- What can be gone through of selectors that pass the check passes it, too. -/
theorem checkTexts_elementsAt {fields : Fields} {selectors : List Value}
    (accepted : checkOptional checkSelectors "selectors" fields = [])
    (elements : fields.elementsAt "selectors" = some selectors) : checkTexts 0 selectors = [] := by
  unfold Fields.elementsAt at elements
  unfold checkOptional at accepted
  cases found : fields.get? "selectors" with
  | none =>
      simp only [found, Option.getD_none, Value.elements?, Option.some.injEq] at elements
      exact elements ▸ rfl
  | some value =>
      simp only [found, Option.getD_some] at elements
      simp only [found, underKey_eq_nil, checkSelectors] at accepted
      split at accepted
      · cases elements
        exact accepted
      · cases elements
        rfl
      · simp [unmet] at accepted

/-- A type that is known is a text. -/
theorem typed_of_ofType {fields : Fields} {known : NodeClass}
    (isKnown : NodeClass.ofType ((fields.get? "type").getD .null) = .ok known)
    (supported : known ≠ .unsupported) :
    ∃ type, fields.get? "type" = some (.text type) ∧ NodeClass.ofText type = known := by
  cases found : fields.get? "type" with
  | none =>
      simp only [found, Option.getD_none, NodeClass.ofType, Except.ok.injEq] at isKnown
      exact absurd isKnown.symm supported
  | some value =>
      simp only [found, Option.getD_some, NodeClass.ofType] at isKnown
      split at isKnown
      next type =>
        cases isKnown
        exact ⟨type, rfl, rfl⟩
      · cases isKnown
      · cases isKnown
      · cases isKnown
        exact absurd rfl supported

/-- The check refuses a type that cannot be looked up among the known ones. -/
theorem checkRequired_of_ofType {fields : Fields} {fault : Fault}
    (unhashable : NodeClass.ofType ((fields.get? "type").getD .null) = .error fault) :
    checkRequired checkText "type" fields ≠ [] := by
  intro accepted
  rw [checkRequired, underKey_eq_nil] at accepted
  cases found : fields.get? "type" with
  | none => simp [found, unmet] at accepted
  | some value =>
      simp only [found, checkText] at accepted
      simp only [found, Option.getD_some] at unhashable
      split at accepted
      · cases unhashable
      · cases unhashable
      · simp [unmet] at accepted

/-- An object that is pruned stays with what is left of its list. -/
theorem give_withLeft (fields : Fields) (key : String) (left : List Value) :
    (if left.isEmpty then pure none
      else pure (some (.object (fields.put key (.list left)))) : Pass ε (Option Value)) =
        done (.ok (fields.withLeft key left)) := by
  cases left <;> rfl

section

variable {fields : Fields}

theorem pruneNode_of_rule (isRule : fields.IsRule) {selectors : List Value}
    (elements : fields.elementsAt "selectors" = some selectors) (options : Options) :
    (pruneNode options (.object fields) : Pass ε (Option Value)) =
      (criticalSelectors options selectors).bind fun left =>
        done (.ok (fields.withLeft "selectors" left)) := by
  have typed : fields.get? "type" = some (.text "rule") := isRule
  have known := (Fields.isRule_iff typed).mp isRule
  unfold Fields.elementsAt at elements
  simp only [pruneNode, typed, Option.getD_some, NodeClass.ofType, known, pruneRule, elementsOf,
    elements, give_withLeft]
  rfl

theorem pruneNode_of_leaf (isLeaf : fields.IsLeaf) (options : Options) :
    (pruneNode options (.object fields) : Pass ε (Option Value)) =
      done (.ok (some (.object fields))) := by
  obtain ⟨type, isKnown, typed⟩ := isLeaf
  have known := NodeClass.ofText_eq_leaf.mpr isKnown
  simp only [pruneNode, typed, Option.getD_some, NodeClass.ofType, known]
  rfl

theorem pruneNode_of_group (isGroup : fields.IsGroup) (options : Options) :
    (pruneNode options (.object fields) : Pass ε (Option Value)) =
      (pruneNested options fields).bind fun left =>
        done (.ok (fields.withLeft "rules" left)) := by
  obtain ⟨type, isKnown, typed⟩ := isGroup
  have known := NodeClass.ofText_eq_group.mpr isKnown
  simp only [pruneNode, typed, Option.getD_some, NodeClass.ofType, known, give_withLeft]
  rfl

end

/-- Pruning does one of these things with every node. -/
theorem handling (node : Value) : Handling ε node := by
  cases node with
  | object fields =>
      cases known : NodeClass.ofType ((Fields.get? fields "type").getD .null) with
      | error fault =>
          refine .refused (fun levels accepted => ?_) fun options => by
            simp only [pruneNode, known]
            rfl
          exact checkRequired_of_ofType known (checkNode_object_eq_nil.mp accepted).2.1
      | ok kind =>
          cases kind with
          | rule =>
              obtain ⟨type, typed, isRule⟩ := typed_of_ofType known (by simp)
              replace isRule := (Fields.isRule_iff typed).mpr isRule
              rcases elementsAt_cases fields with ⟨selectors, elements⟩ | ⟨elements, unlisted⟩
              · exact .rule isRule elements (pruneNode_of_rule isRule elements)
              · have failed (options : Options) :
                    (pruneNode options (.object fields) : Pass ε (Option Value)) =
                      fail (.notIterable ((Fields.get? fields "selectors").getD (.list [])).kind) := by
                  unfold Fields.elementsAt at elements
                  simp only [pruneNode, known, pruneRule, elementsOf, elements]
                  rfl
                refine .refused (fun levels accepted => ?_) failed
                exact unlisted (checkNode_object_eq_nil.mp accepted).2.2.1
          | leaf =>
              obtain ⟨type, typed, isLeaf⟩ := typed_of_ofType known (by simp)
              replace isLeaf := (Fields.isLeaf_iff typed).mpr isLeaf
              exact .leaf isLeaf (pruneNode_of_leaf isLeaf)
          | group =>
              obtain ⟨type, typed, isGroup⟩ := typed_of_ofType known (by simp)
              replace isGroup := (Fields.isGroup_iff typed).mpr isGroup
              rcases @pruneNested_cases ε fields with listed | ⟨unlisted, fault, failed⟩
              · refine .group isGroup fun options => ?_
                rw [pruneNode_of_group isGroup, listed]
              · have fails (options : Options) :
                    (pruneNode options (.object fields) : Pass ε (Option Value)) =
                      done (.error fault) := by
                  rw [pruneNode_of_group isGroup, failed]
                  rfl
                refine .refused (fun levels accepted => ?_) fails
                exact unlisted _ (checkNode_object_eq_nil.mp accepted).2.2.2
          | unsupported =>
              refine .dropped (fun isRule => ?_) (fun isGroup => ?_) fun options => by
                simp only [pruneNode, known]
                rfl
              · rw [isRule] at known
                cases known
              · obtain ⟨type, isKnown, typed⟩ := isGroup
                have isGroup := NodeClass.ofText_eq_group.mpr isKnown
                simp [typed, NodeClass.ofType, isGroup] at known
  | _ =>
      refine .refused (fun levels => ?_) fun options => by simp only [pruneNode]; rfl
      simp only [checkNode]
      split <;> simp [unmet]

end Pass

end CriticalCss
