import CriticalCss.Document.Snapshot
import CriticalCss.Proofs.Criticality
import CriticalCss.Proofs.Pruning.Survival
import CriticalCss.Proofs.Stylesheet.WellFormed

/-!
# Pruning leaves the survivors

On a reliable document, pruning an accepted list of rules succeeds, and what it leaves is
the forest thinned to the surviving places.  The pass goes through a tree of well-formed
nodes; the proof follows their derivation, and the places come in through the exposure of
every node that the pass reaches.
-/

namespace CriticalCss.Pass

open Document Stylesheet

variable {ε : Type}

/-! ## The parts of a pass -/

/-- The selectors of a rule are gone through one by one. -/
theorem elementsOf_selectors {fields : Fields} (listed : fields.HoldsList "selectors") :
    (elementsOf ((fields.get? "selectors").getD (.list [])) : Pass ε (List Value)) =
      .done (.ok (fields.listAt "selectors")) := by
  cases found : fields.get? "selectors" with
  | none => simp [elementsOf, Value.elements?, Fields.listAt, found]
  | some value =>
      rw [listed value found]
      rfl

theorem pruneNested_of_list (options : Options) (nodes : List Value) (rest : Fields) :
    (pruneNested options (("rules", .list nodes) :: rest) : Pass ε (List Value)) =
      pruneNodes options nodes := by
  rw [pruneNested.eq_def]
  rfl

theorem pruneNested_of_ne (options : Options) {key : String} (value : Value) (rest : Fields)
    (different : key ≠ "rules") :
    (pruneNested options ((key, value) :: rest) : Pass ε (List Value)) =
      pruneNested options rest := by
  rw [pruneNested.eq_def]
  exact if_neg different

/-- The rules of a group are pruned where they stand. -/
theorem pruneNested_eq (options : Options) {fields : Fields}
    (listed : fields.HoldsList "rules") :
    (pruneNested options fields : Pass ε (List Value)) =
      pruneNodes options (fields.listAt "rules") := by
  induction fields with
  | nil => simp [pruneNested, pruneNodes, Fields.listAt, Fields.get?]
  | cons field rest ih =>
      obtain ⟨key, value⟩ := field
      by_cases isRules : key = "rules"
      · subst isRules
        have isList := listed value (by simp [Fields.get?_cons])
        generalize Fields.listAt (("rules", value) :: rest) "rules" = nodes at isList ⊢
        subst isList
        exact pruneNested_of_list options nodes rest
      · have same : Fields.get? ((key, value) :: rest) "rules" = Fields.get? rest "rules" := by
          simp [Fields.get?_cons, isRules]
        have sameList :
            Fields.listAt ((key, value) :: rest) "rules" = Fields.listAt rest "rules" := by
          simp [Fields.listAt, same]
        rw [pruneNested_of_ne options value rest isRules, sameList]
        apply ih
        intro held found
        rw [← sameList]
        exact listed held (same.trans found)

/-- Going through selectors leaves those that are critical. -/
theorem criticalSelectors_thins {document : Document ε} (reliable : document.IsReliable)
    (options : Options) {keeps : Nat → Prop} {index : Nat} {selectors : List Value}
    (texts : ∀ selector ∈ selectors, ∃ text, selector = .text text)
    (keeps_iff : ∀ offset text, selectors[offset]? = some (.text text) →
      (keeps (index + offset) ↔ document.IsCritical options text)) :
    ∃ left, (document.perform (criticalSelectors options selectors)).outcome = .ok left ∧
      Thinned keeps index selectors left := by
  induction selectors generalizing index with
  | nil => exact ⟨[], rfl, .nil⟩
  | cons selector rest ih =>
      obtain ⟨text, rfl⟩ := texts selector (by simp)
      obtain ⟨critical, criticalIs, critical_iff⟩ :=
        isCriticalText_decides reliable options text
      obtain ⟨left, leftIs, thinned⟩ := @ih (index + 1)
        (fun other member => texts other (by simp [member]))
        (fun offset other found => by
          rw [Nat.add_right_comm]
          exact keeps_iff (offset + 1) other (by simpa using found))
      have keeps_here : keeps index ↔ document.IsCritical options text :=
        keeps_iff 0 text rfl
      simp only [criticalSelectors, isCritical, bind_eq]
      rw [outcome_bind document criticalIs, outcome_bind document leftIs]
      cases critical with
      | true => exact ⟨_, rfl, .keep (keeps_here.mpr (critical_iff.mp rfl)) thinned⟩
      | false =>
          refine ⟨_, rfl, .drop (fun kept => ?_) thinned⟩
          exact absurd (critical_iff.mpr (keeps_here.mp kept)) (by simp)

/-! ## Nodes and forests -/

/-- What becomes of a node: nothing if it does not survive, and otherwise what is left
of it. -/
def Becomes (critical : String → Prop) (forest : List Value) (place : Place) (node : Value) :
    Option Value → Prop
  | none => ¬Survives critical forest place
  | some image => Survives critical forest place ∧
      LeftNode (Survives critical forest) (SelectorSurvives critical forest) place node image

section

variable {document : Document ε} {options : Options} {forest : List Value}

/-- Pruning nodes one by one leaves the survivors among them, if that holds of each. -/
theorem pruneNodes_leaves {nodes : List Value} {place : Place} {index : Nat}
    (each : ∀ node ∈ nodes, ∃ fields, node = .object fields ∧
      ∀ place, Exposed forest place fields →
        ∃ left?, (document.perform (pruneNode options node)).outcome = .ok left? ∧
          Becomes (document.IsCritical options) forest place node left?)
    (exposed : ∀ offset fields, nodes[offset]? = some (.object fields) →
      Exposed forest (place ++ [index + offset]) fields) :
    ∃ left, (document.perform (pruneNodes options nodes)).outcome = .ok left ∧
      LeftNodes (Survives (document.IsCritical options) forest)
        (SelectorSurvives (document.IsCritical options) forest) place index nodes left := by
  induction nodes generalizing index with
  | nil => exact ⟨[], rfl, .nil⟩
  | cons node rest ih =>
      obtain ⟨fields, rfl, becomes⟩ := each node (by simp)
      obtain ⟨left?, firstIs, first⟩ := becomes _ (exposed 0 fields rfl)
      obtain ⟨left, leftIs, others⟩ := @ih (index + 1)
        (fun other member => each other (by simp [member]))
        (fun offset other found => by
          rw [Nat.add_right_comm]
          exact exposed (offset + 1) other (by simpa using found))
      simp only [pruneNodes, bind_eq]
      rw [outcome_bind document firstIs, outcome_bind document leftIs]
      cases left? with
      | none => exact ⟨left, rfl, .drop first others⟩
      | some image => exact ⟨image :: left, rfl, .keep first.1 first.2 others⟩

variable {fields : Fields} {place : Place}

/-- Pruning a rule leaves it with its surviving selectors, if there are any. -/
theorem pruneRule_becomes (reliable : document.IsReliable)
    (exposed : Exposed forest place fields) (isRule : fields.IsRule)
    (listed : fields.HoldsList "selectors")
    (texts : ∀ selector ∈ fields.listAt "selectors", ∃ text, selector = .text text) :
    ∃ left?, (document.perform (pruneRule options fields)).outcome = .ok left? ∧
      Becomes (document.IsCritical options) forest place (.object fields) left? := by
  have survives_iff_critical : ∀ offset text,
      (fields.listAt "selectors")[offset]? = some (.text text) →
        (SelectorSurvives (document.IsCritical options) forest place (0 + offset) ↔
          document.IsCritical options text) := by
    intro offset text found
    rw [Nat.zero_add]
    constructor
    · rintro ⟨again, other, exposedAgain, _, foundAgain, critical⟩
      cases exposed.unique exposedAgain
      rw [found] at foundAgain
      cases foundAgain
      exact critical
    · exact fun critical => ⟨fields, text, exposed, isRule, found, critical⟩
  obtain ⟨left, leftIs, thinned⟩ :=
    criticalSelectors_thins reliable options texts survives_iff_critical
  have survives_place := survives_iff_selectors_left exposed isRule thinned
  simp only [pruneRule, elementsOf_selectors listed, bind_eq, bind]
  rw [outcome_bind document leftIs]
  cases left with
  | nil => exact ⟨none, rfl, by simp [Becomes, survives_place]⟩
  | cons first others =>
      have present := Fields.isSome_of_listAt_ne_nil (thinned.ne_nil (by simp))
      exact ⟨some _, rfl, survives_place.mpr (by simp),
        .rule isRule (Fields.put_replaces present _) thinned⟩

/-- Pruning a group leaves it with its surviving nodes, if there are any. -/
theorem pruneNested_becomes (exposed : Exposed forest place fields)
    (isGroup : fields.IsGroup) {left : List Value}
    (leftNodes : LeftNodes (Survives (document.IsCritical options) forest)
      (SelectorSurvives (document.IsCritical options) forest) place 0
      (fields.listAt "rules") left) :
    Becomes (document.IsCritical options) forest place (.object fields)
      (if left.isEmpty then none else some (.object (fields.put "rules" (.list left)))) := by
  have survives_place := survives_iff_rules_left exposed isGroup leftNodes
  cases left with
  | nil => simp [Becomes, survives_place]
  | cons first others =>
      have present := Fields.isSome_of_listAt_ne_nil (leftNodes.ne_nil (by simp))
      exact ⟨survives_place.mpr (by simp),
        .group isGroup (Fields.put_replaces present _)
          leftNodes⟩

/-- Pruning a well-formed node that the pass reaches leaves it exactly if it survives. -/
theorem pruneNode_becomes (reliable : document.IsReliable) {node : Value}
    (wellFormed : WellFormed node) :
    ∃ fields, node = .object fields ∧ ∀ place, Exposed forest place fields →
      ∃ left?, (document.perform (pruneNode options node)).outcome = .ok left? ∧
        Becomes (document.IsCritical options) forest place node left? := by
  induction wellFormed with
  | @node fields type typed selectorList texts ruleList _ ih =>
      refine ⟨fields, rfl, fun place exposed => ?_⟩
      have survives_place :
          Survives (document.IsCritical options) forest place ↔ _ := survives_iff exposed typed
      simp only [pruneNode, typed, Option.getD_some, NodeClass.ofType]
      cases classIs : NodeClass.ofText type with
      | rule =>
          exact pruneRule_becomes reliable exposed ((Fields.isRule_iff typed).mpr classIs)
            selectorList texts
      | leaf =>
          have isLeaf := (Fields.isLeaf_iff typed).mpr classIs
          exact ⟨_, rfl, .leaf exposed isLeaf, .leaf isLeaf⟩
      | group =>
          have isGroup := (Fields.isGroup_iff typed).mpr classIs
          have inside : ∀ offset child,
              (fields.listAt "rules")[offset]? = some (.object child) →
                Exposed forest (place ++ [0 + offset]) child := by
            intro offset child found
            rw [Nat.zero_add]
            exact exposed.snoc isGroup found
          obtain ⟨left, leftIs, leftNodes⟩ := pruneNodes_leaves ih inside
          simp only [pruneNested_eq options ruleList, bind_eq]
          rw [outcome_bind document leftIs]
          have becomes := pruneNested_becomes exposed isGroup leftNodes
          cases left with
          | nil => exact ⟨none, rfl, becomes⟩
          | cons first others => exact ⟨some _, rfl, becomes⟩
      | unsupported =>
          refine ⟨none, rfl, ?_⟩
          simp [Becomes, survives_place, classIs]

end

/-- Pruning an accepted list of rules on a reliable document succeeds.  It leaves exactly the
surviving nodes with exactly their surviving selectors, in their order. -/
theorem prune_leaves_survivors {document : Document ε} (reliable : document.IsReliable)
    (options : Options) {rules : List Value} (json : Value.itemsAreJson rules = true)
    (accepted : validateRules (.list rules) = .ok ()) :
    ∃ left, (document.perform (prune options (.list rules))).outcome = .ok left ∧
      LeftOf (document.IsCritical options) rules left ∧
      ∀ other, LeftOf (document.IsCritical options) rules other → other = left := by
  have wellFormed := wellFormed_of_validateRules json accepted
  have exposed : ∀ offset fields, rules[offset]? = some (.object fields) →
      Exposed rules ([] ++ [0 + offset]) fields := by
    intro offset fields found
    rw [Nat.zero_add]
    exact .top found
  obtain ⟨left, leftIs, leftNodes⟩ := pruneNodes_leaves
    (fun node member => pruneNode_becomes reliable (wellFormed node member)) exposed
  refine ⟨left, ?_, leftNodes, fun other leftOther => leftOther.unique leftNodes⟩
  simp only [prune, elementsOf, Value.elements?, pure_eq, bind_eq, bind]
  rw [outcome_bind document leftIs]
  rfl

/-! ## An instance -/

/-- A page with one element on the first screen and one far below it. -/
def twoElements : Snapshot where
  selected := [(".hero", [⟨.ok (.ofInt 10), .ok (.text "static")⟩]),
    (".footer", [⟨.ok (.ofInt 5000), .ok (.text "static")⟩])]
  invalid := [".a:hover("]
  failing := []

/-- A group with a rule and declarations that stay, a rule without selectors and a comment. -/
def mixedRules : List Value :=
  [.object [("type", .text "media"), ("rules", .list [
      .object [("selectors", .list [.text ".footer", .text ".hero", .text ".a:hover("]),
        ("type", .text "rule")],
      .object [("type", .text "font-face"), ("selectors", .list [.text ".footer"])]]),
      ("media", .text "print")],
    .object [("type", .text "rule")],
    .object [("type", .text "comment"), ("rules", .list [])]]

theorem mixedRules_leaves_survivors :
    twoElements.document.IsReliable ∧ Value.itemsAreJson mixedRules = true ∧
      validateRules (.list mixedRules) = .ok () ∧
      ∃ left, (twoElements.document.perform (prune Options.plain (.list mixedRules))).outcome =
          .ok left ∧
        LeftOf (twoElements.document.IsCritical Options.plain) mixedRules left ∧
        ∀ other, LeftOf (twoElements.document.IsCritical Options.plain) mixedRules other →
          other = left :=
  have reliable : twoElements.document.IsReliable :=
    Snapshot.isReliable_document rfl (by simp [twoElements, Value.ofInt])
  have json : Value.itemsAreJson mixedRules = true := by decide
  have accepted : validateRules (.list mixedRules) = .ok () := by rfl
  ⟨reliable, json, accepted, prune_leaves_survivors reliable Options.plain json accepted⟩

end CriticalCss.Pass
