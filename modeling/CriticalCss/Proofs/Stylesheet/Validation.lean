import CriticalCss.Proofs.Failing
import CriticalCss.Proofs.Stylesheet.Violations
import CriticalCss.Stylesheet.File

/-!
# What validation accepts and what it reports

A list of rules is accepted exactly if its nodes are well-formed and not nested too deep, and
otherwise every departure from that is reported, once and in order.  A stylesheet is accepted with
its rules, and what is wrong with these is reported of both alike.
-/

namespace CriticalCss.Stylesheet

/-- A node with at most so many levels of nodes, its own included. -/
inductive NestsWithin : (levels : Nat) → Value → Prop where
  | node {levels : Nat} {fields : Fields} :
      (∀ inner ∈ fields.listAt "rules", NestsWithin levels inner) →
      NestsWithin (levels + 1) (.object fields)

/-! ## Accepted nodes -/

section

variable {fields : Fields} {key : String} {levels : Nat} {value : Value}

/-- A key that holds a list or nothing is accepted if the list is. -/
theorem checkOptional_of_holdsList {check : Value → List Violation}
    (holdsList : fields.HoldsList key) (accepted : check (.list (fields.listAt key)) = []) :
    checkOptional check key fields = [] := by
  rw [checkOptional]
  split
  next value found =>
    rw [holdsList value found, accepted]
    rfl
  next => rfl

theorem checkSelectors_of_texts {items : List Value}
    (texts : ∀ item ∈ items, ∃ text, item = .text text) :
    checkSelectors (.list items) = [] := by
  change checkTexts 0 items = []
  rw [checkTexts_eq, List.flatMap_eq_nil_iff]
  rintro ⟨item, index⟩ listed
  obtain ⟨text, rfl⟩ := texts item (List.fst_mem_of_mem_zipIdx listed)
  rfl

theorem checkRules_eq_nil_iff {nodes : List Value} :
    checkRules levels (.list nodes) = [] ↔ ∀ node ∈ nodes, checkNode levels node = [] := by
  rw [checkRules]
  constructor
  · intro accepted node member
    exact checkNode_of_mem accepted member
  · intro each
    rw [checkNodes_eq, List.flatMap_eq_nil_iff]
    rintro ⟨node, index⟩ listed
    exact underIndex_eq_nil.mpr (each node (List.fst_mem_of_mem_zipIdx listed))

theorem isJson_of_mem_listAt (json : Value.fieldsAreJson fields = true) {item : Value}
    (member : item ∈ fields.listAt key) : item.isJson = true := by
  rw [Fields.listAt] at member
  split at member
  next items found =>
    have listJson := Value.isJson_of_get? json found
    rw [Value.isJson] at listJson
    exact Value.isJson_of_mem listJson member
  next => cases member

/-- A node is accepted exactly if it is well-formed and stays within the levels that are left. -/
theorem checkNode_eq_nil_iff {node : Value} (json : node.isJson = true) :
    checkNode levels node = [] ↔ WellFormed node ∧ NestsWithin levels node := by
  induction levels generalizing node with
  | zero =>
      have refused : checkNode 0 node ≠ [] := by cases node <;> simp [checkNode, unmet]
      exact iff_of_false refused nofun
  | succ levels ih =>
      constructor
      · intro accepted
        have wellFormed := wellFormed_of_checkNode node json accepted
        refine ⟨wellFormed, ?_⟩
        obtain ⟨⟩ := wellFormed
        rw [Value.isJson] at json
        obtain ⟨-, -, -, rulesOk⟩ := checkNode_object_eq_nil.mp accepted
        refine .node fun inner member => ?_
        have innerOk := checkNode_of_mem (checkNodes_of_optional rulesOk) member
        exact ((ih (isJson_of_mem_listAt json member)).mp innerOk).2
      · rintro ⟨@⟨fields, type, typed, selectorList, texts, ruleList, wellFormed⟩, @⟨_, _, within⟩⟩
        rw [Value.isJson] at json
        refine checkNode_object_eq_nil.mpr ⟨levels.succ_ne_zero, ?_, ?_, ?_⟩
        · rw [checkRequired, typed]
          rfl
        · exact checkOptional_of_holdsList selectorList (checkSelectors_of_texts texts)
        · apply checkOptional_of_holdsList ruleList
          apply checkRules_eq_nil_iff.mpr
          intro inner member
          exact (ih (isJson_of_mem_listAt json member)).mpr
            ⟨wellFormed inner member, within inner member⟩

end

/-- Rules are accepted exactly if they are a list of well-formed nodes that are not nested too
deep. -/
theorem validateRules_eq_ok_iff_wellFormed {rules : Value} (json : rules.isJson = true) :
    validateRules rules = .ok () ↔ ∃ nodes, rules = .list nodes ∧
      ∀ node ∈ nodes, WellFormed node ∧ NestsWithin levelLimit node := by
  rw [validateRules_eq_ok_iff]
  constructor
  · intro accepted
    obtain ⟨nodes, rfl, -⟩ := wellFormed_of_checkRules rules json accepted
    rw [Value.isJson] at json
    refine ⟨nodes, rfl, fun node member => ?_⟩
    have nodeOk := checkRules_eq_nil_iff.mp accepted node member
    exact (checkNode_eq_nil_iff (Value.isJson_of_mem json member)).mp nodeOk
  · rintro ⟨nodes, rfl, each⟩
    rw [Value.isJson] at json
    apply checkRules_eq_nil_iff.mpr
    intro node member
    exact (checkNode_eq_nil_iff (Value.isJson_of_mem json member)).mpr (each node member)

/-! ## Reports -/

/-- A fault of the input that reports every departure of a value from a form, each once and in
order, and says how many there are. -/
structure IsReport (subject : String) (form : Form) (value : Value) (fault : Fault) : Prop where
  input : fault.family = .input
  departed : fault.violations ≠ []
  mem_iff : ∀ violation, violation ∈ fault.violations ↔ Departs form value violation
  nodup : fault.violations.Nodup
  ordered : fault.violations.Pairwise Violation.Before
  message : fault.message =
    s!"Malformed {subject}: {fault.violations.length} validation error(s)"

section

variable {value : Value} {fault : Fault}

theorem isReport_of_validateRules (json : value.isJson = true)
    (refused : validateRules value = .error fault) :
    IsReport "rule list" (.nodes levelLimit) value fault := by
  have reports := check_reports (.nodes levelLimit) value json
  rw [validateRules] at refused
  split at refused
  · cases refused
  next departed =>
    cases refused
    exact ⟨rfl, departed, reports.mem_iff, reports.nodup, reports.ordered, rfl⟩

theorem isReport_of_parse (json : value.isJson = true) (refused : parse value = .error fault) :
    IsReport "stylesheet AST" .document value fault := by
  have reports := check_reports .document value json
  rw [parse] at refused
  split at refused
  · cases refused
  next departed =>
    cases refused
    exact ⟨rfl, departed, reports.mem_iff, reports.nodup, reports.ordered, rfl⟩

end

/-! ## Stylesheets -/

/-- A stylesheet with these rules: its type, if it has one, is a text, and its body holds the rules,
which are accepted by themselves, or has no such key. -/
inductive HoldsRules : (stylesheet rules : Value) → Prop where
  | listed {fields body : Fields} {rules : Value} :
      (∀ type, fields.get? "type" = some type → ∃ text, type = .text text) →
      fields.get? "stylesheet" = some (.object body) → body.get? "rules" = some rules →
      validateRules rules = .ok () → HoldsRules (.object fields) rules
  | absent {fields body : Fields} :
      (∀ type, fields.get? "type" = some type → ∃ text, type = .text text) →
      fields.get? "stylesheet" = some (.object body) → body.get? "rules" = none →
      HoldsRules (.object fields) (.list [])

/-- A stylesheet that has nothing but rules. -/
def bare (rules : Value) : Value := .object [("stylesheet", .object [("rules", rules)])]

section

variable {stylesheet rules : Value} {fields body : Fields}

theorem optionalText_of_checkOptional (json : Value.fieldsAreJson fields = true)
    (accepted : checkOptional checkText "type" fields = []) :
    ∀ type, fields.get? "type" = some type → ∃ text, type = .text text := by
  intro type found
  rw [checkOptional, found] at accepted
  exact checkText_eq_nil (Value.isJson_of_get? json found) (underKey_eq_nil.mp accepted)

theorem checkOptional_of_optionalText
    (typed : ∀ type, fields.get? "type" = some type → ∃ text, type = .text text) :
    checkOptional checkText "type" fields = [] := by
  rw [checkOptional]
  split
  next found =>
    obtain ⟨text, rfl⟩ := typed _ found
    rfl
  next => rfl

/-- A stylesheet is accepted exactly if its type and the rules in its body are. -/
theorem check_object_eq_nil_iff : check (.object fields) = [] ↔
    checkOptional checkText "type" fields = [] ∧ ∃ body,
      fields.get? "stylesheet" = some (.object body) ∧
        checkOptional (checkRules levelLimit) "rules" body = [] := by
  rw [check, List.append_eq_nil_iff]
  apply and_congr_right
  intro _
  rw [checkRequired, underKey_eq_nil]
  constructor
  · intro bodyOk
    split at bodyOk
    next value held =>
      cases value with
      | object body => exact ⟨body, held, bodyOk⟩
      | _ => simp [checkBody, unmet] at bodyOk
    next => simp [unmet] at bodyOk
  · rintro ⟨body, held, rulesOk⟩
    rw [held]
    exact rulesOk

theorem rulesOf_object (held : fields.get? "stylesheet" = some (.object body)) :
    rulesOf (.object fields) = (body.get? "rules").getD (.list []) := by
  simp only [rulesOf, held]

theorem parse_eq_ok : parse stylesheet = .ok rules ↔
    check stylesheet = [] ∧ rulesOf stylesheet = rules := by
  rw [parse]
  cases check stylesheet <;> simp

/-- A stylesheet is accepted exactly if it holds accepted rules, and then these are given as they
stand in it. -/
theorem parse_eq_ok_iff (json : stylesheet.isJson = true) :
    parse stylesheet = .ok rules ↔ HoldsRules stylesheet rules := by
  constructor
  · intro parsed
    have accepted := validateRules_of_parse parsed
    obtain ⟨noViolation, rfl⟩ := parse_eq_ok.mp parsed
    cases stylesheet with
    | object fields =>
        rw [Value.isJson] at json
        obtain ⟨typeOk, body, held, -⟩ := check_object_eq_nil_iff.mp noViolation
        have typed := optionalText_of_checkOptional json typeOk
        rw [rulesOf_object held] at accepted ⊢
        cases listed : Fields.get? body "rules" with
        | none => exact .absent typed held listed
        | some rules =>
            rw [listed] at accepted
            exact .listed typed held listed accepted
    | _ => simp [check, unmet] at noViolation
  · rintro (@⟨fields, body, rules, typed, held, listed, accepted⟩ |
      @⟨fields, body, typed, held, absent⟩)
    · have rulesOk : checkOptional (checkRules levelLimit) "rules" body = [] := by
        rw [checkOptional, listed]
        exact underKey_eq_nil.mpr (validateRules_eq_ok_iff.mp accepted)
      have noViolation :=
        check_object_eq_nil_iff.mpr ⟨checkOptional_of_optionalText typed, _, held, rulesOk⟩
      exact parse_eq_ok.mpr ⟨noViolation, by rw [rulesOf_object held, listed]; rfl⟩
    · have rulesOk : checkOptional (checkRules levelLimit) "rules" body = [] := by
        rw [checkOptional, absent]
      have noViolation :=
        check_object_eq_nil_iff.mpr ⟨checkOptional_of_optionalText typed, _, held, rulesOk⟩
      exact parse_eq_ok.mpr ⟨noViolation, by rw [rulesOf_object held, absent]; rfl⟩

/-- The violations of a stylesheet that has nothing but rules are those of the rules. -/
theorem check_bare (rules : Value) : check (bare rules) =
    underKey "stylesheet" (underKey "rules" (checkRules levelLimit rules)) := by
  simp [bare, check, checkRequired, checkOptional, checkBody, Fields.get?, List.lookup_cons]

theorem parse_bare_of_error {violations : List Violation}
    (refused : validateRules rules = .error (.malformedRules violations)) :
    parse (bare rules) = .error (.malformedStylesheet (violations.map fun violation =>
      (violation.under (.key "rules")).under (.key "stylesheet"))) := by
  rw [validateRules] at refused
  split at refused
  · cases refused
  next departed =>
    cases refused
    have violated : check (bare rules) ≠ [] := by simpa [check_bare] using departed
    rw [parse]
    split
    next noViolation => exact absurd noViolation violated
    next =>
      rw [check_bare, underKey, underKey, List.map_map]
      rfl

/-- Rules that have been loaded have been validated. -/
theorem validateRules_of_load {files : FileTree} {path : String}
    (loaded : load files path = .ok rules) : validateRules rules = .ok () := by
  obtain ⟨_, -, loaded⟩ := exists_ok_of_bind loaded
  obtain ⟨_, -, parsed⟩ := exists_ok_of_bind loaded
  exact validateRules_of_parse parsed

end

/-- Validation accepts a JSON value as rules exactly if it is a list of well-formed nodes within
the levels that are checked, and as a stylesheet exactly if it holds such rules, which it gives
back; what it refuses it reports departure by departure, and of rules alike whether they come by
themselves or in a stylesheet.  Rules from a file are never refused again. -/
theorem validation_is_exact {value : Value} (json : value.isJson = true) :
    (validateRules value = .ok () ↔ ∃ nodes, value = .list nodes ∧
      ∀ node ∈ nodes, WellFormed node ∧ NestsWithin levelLimit node) ∧
    (∀ fault, validateRules value = .error fault →
      IsReport "rule list" (.nodes levelLimit) value fault) ∧
    (∀ rules, parse value = .ok rules ↔ HoldsRules value rules) ∧
    (∀ fault, parse value = .error fault → IsReport "stylesheet AST" .document value fault) ∧
    (validateRules value = .ok () → parse (bare value) = .ok value) ∧
    (∀ violations, validateRules value = .error (.malformedRules violations) →
      parse (bare value) = .error (.malformedStylesheet (violations.map fun violation =>
        (violation.under (.key "rules")).under (.key "stylesheet")))) ∧
    ∀ files path, load files path = .ok value → validateRules value = .ok () := by
  refine ⟨validateRules_eq_ok_iff_wellFormed json, ?_, fun _ => parse_eq_ok_iff json, ?_,
    parse_of_validateRules, ?_, ?_⟩
  · exact fun _ => isReport_of_validateRules json
  · exact fun _ => isReport_of_parse json
  · exact fun _ => parse_bare_of_error
  · exact fun _ _ => validateRules_of_load

/-- Rules with something wrong at every level. -/
def crookedRules : Value :=
  .list [.object [("rules", .null), ("selectors", .list [.ofInt 1, .text ".top"])], .ofInt 5,
    .object [("type", .text "media"), ("rules", .list [.object [("type", .null)]])]]

/-- What is wrong with them. -/
def crookedViolations : List Violation :=
  [⟨[.index 0, .key "type"], .present⟩, ⟨[.index 0, .key "selectors", .index 0], .text⟩,
    ⟨[.index 0, .key "rules"], .list⟩, ⟨[.index 1], .object .node⟩,
    ⟨[.index 2, .key "rules", .index 0, .key "type"], .text⟩]

theorem crookedRules_validated : crookedRules.isJson = true ∧
    validateRules crookedRules = .error (.malformedRules crookedViolations) ∧
    IsReport "rule list" (.nodes levelLimit) crookedRules (.malformedRules crookedViolations) := by
  have json : crookedRules.isJson = true := rfl
  have refused : validateRules crookedRules = .error (.malformedRules crookedViolations) := rfl
  obtain ⟨-, reported, -⟩ := validation_is_exact json
  exact ⟨json, refused, reported _ refused⟩

/-! ## Nodes that are nested too deep -/

/-- A node inside so many groups, one inside the other. -/
def grouped : Nat → Value
  | 0 => .object [("type", .text "rule")]
  | groups + 1 => .object [("type", .text "media"), ("rules", .list [grouped groups])]

theorem grouped_isJson (groups : Nat) : (grouped groups).isJson = true := by
  induction groups with
  | zero => rfl
  | succ groups ih => simp [grouped, Value.isJson, Value.fieldsAreJson, Value.itemsAreJson, ih]

theorem grouped_wellFormed (groups : Nat) : WellFormed (grouped groups) := by
  induction groups with
  | zero => exact .node rfl nofun nofun nofun nofun
  | succ groups ih =>
      refine .node rfl nofun nofun ?_ ?_
      · rintro value ⟨⟩
        rfl
      · rintro node (_ | ⟨_, ⟨⟩⟩)
        exact ih

theorem grouped_nestsWithin_iff {groups levels : Nat} :
    NestsWithin levels (grouped groups) ↔ groups < levels := by
  induction groups generalizing levels with
  | zero =>
      constructor
      · rintro ⟨⟩
        exact Nat.succ_pos _
      · intro positive
        obtain ⟨levels, rfl⟩ := Nat.exists_eq_add_one.mpr positive
        exact .node nofun
  | succ groups ih =>
      constructor
      · rintro (@⟨levels, _, within⟩)
        exact Nat.succ_lt_succ (ih.mp (within _ (List.mem_singleton_self _)))
      · intro deeper
        obtain ⟨levels, rfl⟩ := Nat.exists_eq_add_one.mpr (Nat.zero_lt_of_lt deeper)
        refine .node fun inner member => ?_
        rw [List.mem_singleton.mp member]
        exact ih.mpr (Nat.lt_of_succ_lt_succ deeper)

/-- A well-formed node is refused if it lies inside too many groups. -/
theorem validateRules_grouped_iff {groups : Nat} :
    validateRules (.list [grouped groups]) = .ok () ↔ groups < levelLimit := by
  have json : (Value.list [grouped groups]).isJson = true := by
    simp [Value.isJson, Value.itemsAreJson, grouped_isJson]
  rw [validateRules_eq_ok_iff_wellFormed json, ← grouped_nestsWithin_iff]
  constructor
  · rintro ⟨nodes, isNodes, each⟩
    cases isNodes
    exact (each _ (List.mem_singleton_self _)).2
  · intro within
    refine ⟨_, rfl, fun node member => ?_⟩
    rw [List.mem_singleton.mp member]
    exact ⟨grouped_wellFormed groups, within⟩

/-- There are well-formed rules that are refused. -/
theorem deep_rules_are_refused : (Value.list [grouped levelLimit]).isJson = true ∧
    (∀ node ∈ [grouped levelLimit], WellFormed node) ∧
    validateRules (.list [grouped levelLimit]) ≠ .ok () := by
  refine ⟨by simp [Value.isJson, Value.itemsAreJson, grouped_isJson], ?_, ?_⟩
  · intro node member
    rw [List.mem_singleton.mp member]
    exact grouped_wellFormed levelLimit
  · rw [Ne, validateRules_grouped_iff]
    exact Nat.lt_irrefl _

end CriticalCss.Stylesheet
