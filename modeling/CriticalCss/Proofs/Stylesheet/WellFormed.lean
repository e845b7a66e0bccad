import CriticalCss.Proofs.Fields
import CriticalCss.Stylesheet.Schema

/-!
# Well-formed nodes

A node is well-formed if it is an object with a type, and its selectors and its rules, if
it has them, are lists of texts and of well-formed nodes.  What the check of a stylesheet
accepts among the values of a JSON text is well-formed all the way down.
-/

namespace CriticalCss

namespace Value

mutual

/-- Whether a JSON text can express a value. -/
def isJson : Value → Bool
  | list items => itemsAreJson items
  | object fields => fieldsAreJson fields
  | foreign _ | entry _ => false
  | _ => true

/-- Whether a JSON text can express all items. -/
def itemsAreJson : List Value → Bool
  | [] => true
  | item :: rest => item.isJson && itemsAreJson rest

/-- Whether a JSON text can express the values of all fields. -/
def fieldsAreJson : List (String × Value) → Bool
  | [] => true
  | (_, value) :: rest => value.isJson && fieldsAreJson rest

end

theorem isJson_of_mem {items : List Value} (json : itemsAreJson items = true) {item : Value}
    (member : item ∈ items) : item.isJson = true := by
  induction items with
  | nil => cases member
  | cons first rest ih =>
      simp only [itemsAreJson, Bool.and_eq_true] at json
      rcases List.mem_cons.mp member with rfl | inRest
      · exact json.1
      · exact ih json.2 inRest

theorem isJson_of_get? {fields : Fields} (json : fieldsAreJson fields = true) {key : String}
    {value : Value} (found : fields.get? key = some value) : value.isJson = true := by
  induction fields with
  | nil => simp [Fields.get?] at found
  | cons field rest ih =>
      obtain ⟨name, held⟩ := field
      simp only [fieldsAreJson, Bool.and_eq_true] at json
      rw [Fields.get?_cons] at found
      split at found
      · cases found
        exact json.1
      · exact ih json.2 found

end Value

namespace Stylesheet

/-- A node with a type, whose selectors are texts and whose rules are well-formed. -/
inductive WellFormed : Value → Prop where
  | node {fields : Fields} {type : String} :
      fields.get? "type" = some (.text type) →
      fields.HoldsList "selectors" →
      (∀ selector ∈ fields.listAt "selectors", ∃ text, selector = .text text) →
      fields.HoldsList "rules" →
      (∀ node ∈ fields.listAt "rules", WellFormed node) →
      WellFormed (.object fields)

@[simp] theorem underKey_eq_nil {key : String} {violations : List Violation} :
    underKey key violations = [] ↔ violations = [] := by
  simp [underKey]

@[simp] theorem underIndex_eq_nil {index : Nat} {violations : List Violation} :
    underIndex index violations = [] ↔ violations = [] := by
  simp [underIndex]

theorem checkText_eq_nil {value : Value} (json : value.isJson = true)
    (accepted : checkText value = []) : ∃ text, value = .text text := by
  cases value with
  | text held => exact ⟨held, rfl⟩
  | foreign kind => simp [Value.isJson] at json
  | null | number _ | list _ | object _ | entry _ => simp [checkText, unmet] at accepted

theorem checkTexts_eq_nil {items : List Value} {index : Nat}
    (json : Value.itemsAreJson items = true) (accepted : checkTexts index items = []) :
    ∀ item ∈ items, ∃ text, item = .text text := by
  induction items generalizing index with
  | nil => simp
  | cons head rest ih =>
      simp only [Value.itemsAreJson, Bool.and_eq_true] at json
      simp only [checkTexts, List.append_eq_nil_iff, underIndex_eq_nil] at accepted
      rintro item (_ | ⟨_, inRest⟩)
      · exact checkText_eq_nil json.1 accepted.1
      · exact ih json.2 accepted.2 item inRest

theorem checkSelectors_eq_nil {value : Value} (json : value.isJson = true)
    (accepted : checkSelectors value = []) :
    ∃ items, value = .list items ∧ ∀ item ∈ items, ∃ text, item = .text text := by
  cases value with
  | list items => exact ⟨items, rfl, checkTexts_eq_nil json accepted⟩
  | foreign kind => simp [Value.isJson] at json
  | null | number _ | text _ | object _ | entry _ => simp [checkSelectors, unmet] at accepted

/-- The type of a node that has been accepted is a text. -/
theorem type_of_accepted {fields : Fields} (json : Value.fieldsAreJson fields = true)
    (accepted : checkRequired checkText "type" fields = []) :
    ∃ type, fields.get? "type" = some (.text type) := by
  unfold checkRequired at accepted
  rw [underKey_eq_nil] at accepted
  split at accepted
  next value found =>
    obtain ⟨type, rfl⟩ := checkText_eq_nil (Value.isJson_of_get? json found) accepted
    exact ⟨type, found⟩
  next => simp [unmet] at accepted

/-- The selectors of a node that has been accepted are a list of texts, if there are any. -/
theorem selectors_of_accepted {fields : Fields} (json : Value.fieldsAreJson fields = true)
    (accepted : checkOptional checkSelectors "selectors" fields = []) :
    fields.HoldsList "selectors" ∧
      ∀ selector ∈ fields.listAt "selectors", ∃ text, selector = .text text := by
  unfold checkOptional at accepted
  split at accepted
  next value found =>
    rw [underKey_eq_nil] at accepted
    obtain ⟨items, rfl, texts⟩ :=
      checkSelectors_eq_nil (Value.isJson_of_get? json found) accepted
    have listed := Fields.listAt_of_get? found
    refine ⟨fun value other => ?_, by rwa [listed]⟩
    rw [found, Option.some.injEq] at other
    rw [← other, listed]
  next absent =>
    exact ⟨fun value found => by simp [absent] at found, by simp [Fields.listAt, absent]⟩

theorem checkNested_eq (levels : Nat) (fields : Fields) :
    checkNested levels fields = checkOptional (checkRules levels) "rules" fields := by
  induction fields with
  | nil => rfl
  | cons field rest ih =>
      obtain ⟨key, value⟩ := field
      by_cases isRules : key = "rules"
      · simp [checkNested, checkOptional, Fields.get?_cons, isRules]
      · simp [checkNested, checkOptional, Fields.get?_cons, isRules, ih]

/-- An optional list that is accepted is accepted item by item. -/
theorem checkTexts_of_optional {fields : Fields}
    (accepted : checkOptional checkSelectors "selectors" fields = []) :
    checkTexts 0 (fields.listAt "selectors") = [] := by
  rw [Fields.listAt]
  split
  next items found => simpa [checkOptional, found, checkSelectors] using accepted
  next => rfl

theorem checkNodes_of_optional {levels : Nat} {fields : Fields}
    (accepted : checkOptional (checkRules levels) "rules" fields = []) :
    checkNodes levels 0 (fields.listAt "rules") = [] := by
  rw [Fields.listAt]
  split
  next nodes found => simpa [checkOptional, found, checkRules] using accepted
  next => simp [checkNodes]

/-- Nodes that are accepted are accepted one by one. -/
theorem checkNode_of_mem {nodes : List Value} {levels index : Nat} {node : Value}
    (accepted : checkNodes levels index nodes = []) (member : node ∈ nodes) :
    checkNode levels node = [] := by
  induction nodes generalizing index with
  | nil => cases member
  | cons first rest ih =>
      simp only [checkNodes, List.append_eq_nil_iff, underIndex_eq_nil] at accepted
      rcases List.mem_cons.mp member with rfl | inRest
      · exact accepted.1
      · exact ih accepted.2 inRest

/-- An accepted node is an object within the levels that are checked, and its parts are
accepted. -/
theorem checkNode_object_eq_nil {levels : Nat} {fields : Fields} :
    checkNode levels (.object fields) = [] ↔
      levels ≠ 0 ∧ checkRequired checkText "type" fields = [] ∧
        checkOptional checkSelectors "selectors" fields = [] ∧
        checkOptional (checkRules (levels - 1)) "rules" fields = [] := by
  by_cases exhausted : levels = 0
  · simp [checkNode, exhausted, unmet]
  · simp [checkNode, exhausted, checkNested_eq]

mutual

theorem wellFormed_of_checkNode {levels : Nat} :
    (node : Value) → node.isJson = true → checkNode levels node = [] → WellFormed node
  | .object fields, json, accepted => by
      simp only [Value.isJson] at json
      by_cases exhausted : levels = 0
      · simp [checkNode, exhausted, unmet] at accepted
      · simp only [checkNode, exhausted, ↓reduceIte, List.append_eq_nil_iff] at accepted
        obtain ⟨⟨typeOk, selectorsOk⟩, nestedOk⟩ := accepted
        obtain ⟨type, typed⟩ := type_of_accepted json typeOk
        obtain ⟨selectorList, texts⟩ := selectors_of_accepted json selectorsOk
        obtain ⟨ruleList, nodes⟩ := wellFormed_of_checkNested fields json nestedOk
        exact .node typed selectorList texts ruleList nodes
  | .null, _, accepted | .number _, _, accepted | .text _, _, accepted
  | .list _, _, accepted | .foreign _, _, accepted | .entry _, _, accepted => by
      simp only [checkNode] at accepted
      split at accepted <;> simp [unmet] at accepted

theorem wellFormed_of_checkNested {levels : Nat} :
    (fields : Fields) → Value.fieldsAreJson fields = true →
    checkNested levels fields = [] →
    fields.HoldsList "rules" ∧ ∀ node ∈ fields.listAt "rules", WellFormed node
  | [], _, _ => by simp [Fields.HoldsList, Fields.listAt, Fields.get?]
  | (key, value) :: rest, json, accepted => by
      simp only [Value.fieldsAreJson, Bool.and_eq_true] at json
      by_cases isRules : key = "rules"
      · simp only [checkNested, isRules, ↓reduceIte, underKey_eq_nil] at accepted
        obtain ⟨nodes, rfl, wellFormed⟩ :=
          wellFormed_of_checkRules value json.1 accepted
        simpa [Fields.HoldsList, Fields.listAt, Fields.get?_cons, isRules] using wellFormed
      · simp only [checkNested, isRules, ↓reduceIte] at accepted
        have ih := wellFormed_of_checkNested rest json.2 accepted
        simpa [Fields.HoldsList, Fields.listAt, Fields.get?_cons, isRules] using ih

theorem wellFormed_of_checkRules {levels : Nat} :
    (rules : Value) → rules.isJson = true → checkRules levels rules = [] →
    ∃ nodes, rules = .list nodes ∧ ∀ node ∈ nodes, WellFormed node
  | .list nodes, json, accepted =>
      ⟨nodes, rfl, wellFormed_of_checkNodes 0 nodes json accepted⟩
  | .foreign _, json, _ => by simp [Value.isJson] at json
  | .null, _, accepted | .number _, _, accepted | .text _, _, accepted
  | .object _, _, accepted | .entry _, _, accepted => by
      simp [checkRules, unmet] at accepted

theorem wellFormed_of_checkNodes {levels : Nat} :
    (index : Nat) → (nodes : List Value) → Value.itemsAreJson nodes = true →
    checkNodes levels index nodes = [] → ∀ node ∈ nodes, WellFormed node
  | _, [], _, _ => by simp
  | index, head :: rest, json, accepted => by
      simp only [Value.itemsAreJson, Bool.and_eq_true] at json
      simp only [checkNodes, List.append_eq_nil_iff, underIndex_eq_nil] at accepted
      rintro node (_ | ⟨_, inRest⟩)
      · exact wellFormed_of_checkNode head json.1 accepted.1
      · exact wellFormed_of_checkNodes (index + 1) rest json.2 accepted.2 node inRest

end

/-- Rules are accepted if no violation is found. -/
theorem validateRules_eq_ok_iff {rules : Value} :
    validateRules rules = .ok () ↔ checkRules levelLimit rules = [] := by
  unfold validateRules
  cases checkRules levelLimit rules <;> simp

/-- The nodes of an accepted list of rules are well-formed. -/
theorem wellFormed_of_validateRules {rules : List Value}
    (json : Value.itemsAreJson rules = true)
    (accepted : validateRules (.list rules) = .ok ()) :
    ∀ node ∈ rules, WellFormed node :=
  wellFormed_of_checkNodes 0 rules json (validateRules_eq_ok_iff.mp accepted)

/-- The rules of an accepted stylesheet are accepted as a list of rules. -/
theorem checkRules_rulesOf {stylesheet : Value} (accepted : check stylesheet = []) :
    checkRules levelLimit (rulesOf stylesheet) = [] := by
  have none : checkRules levelLimit (.list []) = [] := by rw [checkRules, checkNodes]
  simp only [rulesOf]
  split
  next fields =>
    simp only [check, List.append_eq_nil_iff, checkRequired, underKey_eq_nil] at accepted
    split
    next body found =>
      obtain ⟨_, bodyOk⟩ := accepted
      simp only [found, checkBody, checkOptional] at bodyOk
      cases rulesAre : Fields.get? body "rules" with
      | none => exact none
      | some rules => simpa [rulesAre] using bodyOk
    next => exact none
  next => exact none

theorem validateRules_of_parse {stylesheet rules : Value} (parsed : parse stylesheet = .ok rules) :
    validateRules rules = .ok () := by
  rw [parse] at parsed
  split at parsed
  next noViolation =>
    cases parsed
    exact validateRules_eq_ok_iff.mpr (checkRules_rulesOf noViolation)
  next => cases parsed

/-- A list of rules that is accepted makes an accepted stylesheet. -/
theorem parse_of_validateRules {rules : Value} (accepted : validateRules rules = .ok ()) :
    parse (.object [("stylesheet", .object [("rules", rules)])]) = .ok rules := by
  have wrapped : check (.object [("stylesheet", .object [("rules", rules)])]) = [] := by
    have noViolation := validateRules_eq_ok_iff.mp accepted
    have noType : Fields.get? [("stylesheet", .object [("rules", rules)])] "type" = none := rfl
    have body : Fields.get? [("stylesheet", .object [("rules", rules)])] "stylesheet" =
      some (.object [("rules", rules)]) := rfl
    have listed : Fields.get? [("rules", rules)] "rules" = some rules := rfl
    simp [check, checkRequired, checkOptional, checkBody, noType, body, listed, noViolation]
  rw [parse, wrapped]
  rfl

end Stylesheet

end CriticalCss
