import CriticalCss.Proofs.Stylesheet.WellFormed

/-!
# Violations are departures from the shape

The shape of a stylesheet is a grammar of places: every place has a form, and the form says which
keys an object there may have and of which form the items of a list are.  A value departs from a
form at a path if the place that the path leads to does not meet what its form requires.  The check
of a stylesheet reports every departure once: keys in the order type, selectors, rules, items in
their own order, and whatever lies inside a part before whatever lies inside a later one.
-/

namespace CriticalCss.Stylesheet

/-- The forms that places have.  For nodes so many levels are left, their own included. -/
inductive Form where
  | text
  | texts
  | node (levels : Nat)
  | nodes (levels : Nat)
  | body
  | document

/-- A key that an object may have, the form of its value, and whether it has to be there. -/
structure Part where
  key : String
  form : Form
  required : Bool

namespace Form

/-- What a place of a form requires of its value, whatever the value holds. -/
def requirement : Form → Requirement
  | text => .text
  | texts | nodes _ => .list
  | node 0 => .depth
  | node (_ + 1) => .object .node
  | body => .object .body
  | document => .object .document

/-- Whether a value meets that requirement. -/
def admits : Form → Value → Bool
  | text, .text _ => true
  | texts, .list _ | nodes _, .list _ => true
  | node (_ + 1), .object _ | body, .object _ | document, .object _ => true
  | _, _ => false

/-- The keys that an object of a form may have, in their order. -/
def parts : Form → List Part
  | node (levels + 1) =>
    [⟨"type", text, true⟩, ⟨"selectors", texts, false⟩, ⟨"rules", nodes levels, false⟩]
  | body => [⟨"rules", nodes levelLimit, false⟩]
  | document => [⟨"type", text, false⟩, ⟨"stylesheet", body, true⟩]
  | _ => []

/-- The form of the items of a list of a form. -/
def item? : Form → Option Form
  | texts => some text
  | nodes levels => some (node levels)
  | _ => none

/-- The violations that are found at a place of a form. -/
def check : Form → Value → List Violation
  | text => checkText
  | texts => checkSelectors
  | node levels => checkNode levels
  | nodes levels => checkRules levels
  | body => checkBody
  | document => Stylesheet.check

end Form

/-- A value departs from a form in one place: it is not of the right kind itself, it lacks a key, or
one of its parts or items departs from its own form. -/
inductive Departs : Form → Value → Violation → Prop where
  | unfit {form : Form} {value : Value} :
      form.admits value = false → Departs form value ⟨[], form.requirement⟩
  | missing {form : Form} {part : Part} {fields : Fields} :
      part ∈ form.parts → part.required = true → fields.get? part.key = none →
      Departs form (.object fields) ⟨[.key part.key], .present⟩
  | part {form : Form} {part : Part} {fields : Fields} {value : Value} {violation : Violation} :
      part ∈ form.parts → fields.get? part.key = some value → Departs part.form value violation →
      Departs form (.object fields) (violation.under (.key part.key))
  | item {form inner : Form} {items : List Value} {index : Nat} {value : Value}
      {violation : Violation} :
      form.item? = some inner → items[index]? = some value → Departs inner value violation →
      Departs form (.list items) (violation.under (.index index))

/-! ## The order of reports -/

/-- All keys, in the order in which they are checked. -/
def keys : List String := ["type", "selectors", "rules", "stylesheet"]

/-- One step leads to an earlier part than another. -/
def PathStep.Before : PathStep → PathStep → Prop
  | .key first, .key second => keys.idxOf first < keys.idxOf second
  | .index first, .index second => first < second
  | _, _ => False

/-- Where the paths of two violations part, the first leads to an earlier part than the second. -/
def Violation.Before (first second : Violation) : Prop :=
  List.Lex PathStep.Before first.path second.path

theorem PathStep.not_before_self (step : PathStep) : ¬ step.Before step := by
  cases step <;> exact Nat.lt_irrefl _

theorem Violation.not_before_self (violation : Violation) : ¬ violation.Before violation := by
  obtain ⟨path, requirement⟩ := violation
  induction path with
  | nil => exact nofun
  | cons step rest ih =>
      rintro (_ | head | tail)
      · exact step.not_before_self head
      · exact ih tail

theorem Violation.under_before_under {first second : Violation} {step : PathStep}
    (before : first.Before second) : (first.under step).Before (second.under step) :=
  .cons before

theorem Violation.under_before {step later : PathStep} (earlier : step.Before later)
    (first second : Violation) : (first.under step).Before (second.under later) :=
  .rel earlier

/-- The violations are the departures of a value from a form, each once and in order. -/
structure Reports (form : Form) (value : Value) (violations : List Violation) : Prop where
  mem_iff : ∀ violation, violation ∈ violations ↔ Departs form value violation
  ordered : violations.Pairwise Violation.Before

namespace Reports

variable {form : Form} {value : Value} {violations : List Violation}

theorem nodup (reports : Reports form value violations) : violations.Nodup := by
  apply reports.ordered.imp
  rintro first second before rfl
  exact first.not_before_self before

/-- Violations found at a part stay in order under its key or index. -/
theorem ordered_under (reports : Reports form value violations) (step : PathStep) :
    (violations.map (·.under step)).Pairwise Violation.Before :=
  List.pairwise_map.mpr (reports.ordered.imp Violation.under_before_under)

end Reports

/-! ## Checks by form -/

section

variable {form inner : Form} {fields : Fields} {items : List Value} {value : Value}
  {violation : Violation}

theorem Form.parts_of_not_admits (unfit : form.admits (.object fields) = false) :
    form.parts = [] := by
  cases form with
  | node levels => cases levels with
    | zero => rfl
    | succ levels => cases unfit
  | text | texts | nodes _ => rfl
  | body | document => cases unfit

theorem Form.item?_of_not_admits (unfit : form.admits (.list items) = false) :
    form.item? = none := by
  cases form with
  | text | node _ | body | document => rfl
  | texts | nodes _ => cases unfit

/-- A value of the wrong kind departs by its kind alone. -/
theorem departs_of_not_admits (unfit : form.admits value = false) :
    Departs form value violation ↔ violation = ⟨[], form.requirement⟩ := by
  constructor
  · intro departs
    cases departs with
    | unfit => rfl
    | missing isPart | part isPart =>
        rw [Form.parts_of_not_admits unfit] at isPart
        cases isPart
    | item isItem =>
        rw [Form.item?_of_not_admits unfit] at isItem
        cases isItem
  · rintro rfl
    exact .unfit unfit

/-- A list departs by its items. -/
theorem departs_list_iff (isItem : form.item? = some inner) :
    Departs form (.list items) violation ↔ ∃ index value deeper, items[index]? = some value ∧
      Departs inner value deeper ∧ violation = deeper.under (.index index) := by
  constructor
  · intro departs
    cases departs with
    | unfit unfit =>
        rw [Form.item?_of_not_admits unfit] at isItem
        cases isItem
    | item isOther found deeper =>
        cases isItem.symm.trans isOther
        exact ⟨_, _, _, found, deeper, rfl⟩
  · rintro ⟨index, value, deeper, found, departs, rfl⟩
    exact .item isItem found departs

/-- The violations at a part of an object. -/
def Part.check (part : Part) (fields : Fields) : List Violation :=
  (if part.required then checkRequired else checkOptional) part.form.check part.key fields

/-- A key departs by being missing or by its value. -/
def Part.Departs (part : Part) (fields : Fields) (violation : Violation) : Prop :=
  (part.required = true ∧ fields.get? part.key = none ∧ violation = ⟨[.key part.key], .present⟩) ∨
    ∃ value deeper, fields.get? part.key = some value ∧ Stylesheet.Departs part.form value deeper ∧
      violation = deeper.under (.key part.key)

/-- An object departs by its keys. -/
theorem departs_object_iff (admits : form.admits (.object fields) = true) :
    Departs form (.object fields) violation ↔
      ∃ part ∈ form.parts, part.Departs fields violation := by
  constructor
  · intro departs
    cases departs with
    | unfit unfit => rw [unfit] at admits; cases admits
    | missing isPart required absent => exact ⟨_, isPart, .inl ⟨required, absent, rfl⟩⟩
    | part isPart found deeper => exact ⟨_, isPart, .inr ⟨_, _, found, deeper, rfl⟩⟩
  · rintro ⟨part, isPart, ⟨required, absent, rfl⟩ | ⟨value, deeper, found, departs, rfl⟩⟩
    · exact .missing isPart required absent
    · exact .part isPart found departs

/-- The violations at the items of a list are those at one item after the other. -/
theorem checkTexts_eq (index : Nat) (items : List Value) : checkTexts index items =
    (items.zipIdx index).flatMap fun item => underIndex item.2 (checkText item.1) := by
  induction items generalizing index with
  | nil => rfl
  | cons item rest ih => rw [checkTexts, ih, List.zipIdx_cons, List.flatMap_cons]

theorem checkNodes_eq (levels index : Nat) (nodes : List Value) : checkNodes levels index nodes =
    (nodes.zipIdx index).flatMap fun node => underIndex node.2 (checkNode levels node.1) := by
  induction nodes generalizing index with
  | nil => simp [checkNodes]
  | cons node rest ih => rw [checkNodes, ih, List.zipIdx_cons, List.flatMap_cons]

theorem Form.check_list (isItem : form.item? = some inner) : form.check (.list items) =
    items.zipIdx.flatMap fun item => underIndex item.2 (inner.check item.1) := by
  cases form with
  | texts =>
      cases isItem
      exact checkTexts_eq 0 items
  | nodes levels =>
      cases isItem
      change checkRules levels (.list items) = _
      rw [checkRules, checkNodes_eq]
      rfl
  | text | node _ | body | document => cases isItem

theorem Form.check_object (admits : form.admits (.object fields) = true) :
    form.check (.object fields) = form.parts.flatMap (·.check fields) := by
  cases form with
  | node levels =>
      cases levels with
      | zero => cases admits
      | succ levels => simp [check, parts, Part.check, checkNode, checkNested_eq]
  | body => simp [check, parts, Part.check, checkBody]
  | document => simp [check, parts, Part.check, Stylesheet.check]
  | text | texts | nodes _ => cases admits

theorem Form.check_of_not_admits (json : value.isJson = true) (unfit : form.admits value = false) :
    form.check value = unmet form.requirement := by
  cases form with
  | text =>
      cases value with
      | text => cases unfit
      | foreign => simp [Value.isJson] at json
      | _ => rfl
  | texts =>
      cases value with
      | list => cases unfit
      | foreign => simp [Value.isJson] at json
      | _ => rfl
  | nodes levels =>
      change checkRules levels value = _
      cases value with
      | list => cases unfit
      | foreign => simp [Value.isJson] at json
      | _ => rw [checkRules] <;> first | rfl | exact nofun
  | node levels =>
      change checkNode levels value = _
      cases levels with
      | zero => cases value <;> simp [checkNode, requirement]
      | succ levels =>
          cases value with
          | object => cases unfit
          | _ => simp [checkNode, requirement]
  | body | document =>
      cases value with
      | object => cases unfit
      | _ => rfl

/-! ## Reports -/

/-- The violations at the items of a list are reported in order. -/
theorem reports_list (isItem : form.item? = some inner)
    (each : ∀ item ∈ items, Reports inner item (inner.check item)) :
    Reports form (.list items) (form.check (.list items)) where
  mem_iff violation := by
    rw [Form.check_list isItem, departs_list_iff isItem, List.mem_flatMap]
    constructor
    · rintro ⟨⟨value, index⟩, listed, found⟩
      obtain ⟨deeper, isDeeper, rfl⟩ := List.mem_map.mp found
      have here := List.mem_zipIdx_iff_getElem?.mp listed
      have departs := (each value (List.mem_of_getElem? here)).mem_iff deeper
      exact ⟨index, value, deeper, here, departs.mp isDeeper, rfl⟩
    · rintro ⟨index, value, deeper, here, departs, rfl⟩
      have isDeeper := (each value (List.mem_of_getElem? here)).mem_iff deeper
      exact ⟨(value, index), List.mem_zipIdx_iff_getElem?.mpr here,
        List.mem_map_of_mem (isDeeper.mpr departs)⟩
  ordered := by
    rw [Form.check_list isItem, List.pairwise_flatMap]
    constructor
    · rintro ⟨value, index⟩ listed
      have here := List.mem_zipIdx_iff_getElem?.mp listed
      exact (each value (List.mem_of_getElem? here)).ordered_under _
    · have indexes : items.zipIdx.Pairwise fun first second => first.2 < second.2 := by
        apply List.pairwise_map.mp
        rw [List.zipIdx_map_snd]
        exact List.pairwise_lt_range'
      apply indexes.imp
      intro first second earlier one inFirst other inSecond
      obtain ⟨one, -, rfl⟩ := List.mem_map.mp inFirst
      obtain ⟨other, -, rfl⟩ := List.mem_map.mp inSecond
      have before : PathStep.Before (.index first.2) (.index second.2) := earlier
      exact Violation.under_before before one other

namespace Part

variable {part : Part}

theorem Departs.exists_under (departs : part.Departs fields violation) :
    ∃ deeper : Violation, violation = deeper.under (.key part.key) := by
  rcases departs with ⟨-, -, rfl⟩ | ⟨-, deeper, -, -, rfl⟩
  · exact ⟨⟨[], .present⟩, rfl⟩
  · exact ⟨deeper, rfl⟩

theorem check_of_found (found : fields.get? part.key = some value) :
    part.check fields = underKey part.key (part.form.check value) := by
  rw [check]
  split
  · rw [checkRequired, found]
  · rw [checkOptional, found]

theorem check_of_missing (absent : fields.get? part.key = none) :
    part.check fields = if part.required then [⟨[.key part.key], .present⟩] else [] := by
  rw [check]
  split
  · rw [checkRequired, absent]
    rfl
  · rw [checkOptional, absent]

theorem mem_check (each : ∀ value, fields.get? part.key = some value →
    Reports part.form value (part.form.check value)) :
    violation ∈ part.check fields ↔ part.Departs fields violation := by
  cases found : fields.get? part.key with
  | none =>
      rw [check_of_missing found, Departs, found]
      cases part.required <;> simp
  | some value =>
      rw [check_of_found found, Departs, found]
      simp only [underKey, List.mem_map, (each value found).mem_iff]
      constructor
      · rintro ⟨deeper, departs, rfl⟩
        exact .inr ⟨value, deeper, rfl, departs, rfl⟩
      · rintro (⟨-, absent, -⟩ | ⟨other, deeper, same, departs, rfl⟩)
        · cases absent
        · cases same
          exact ⟨deeper, departs, rfl⟩

theorem check_ordered (each : ∀ value, fields.get? part.key = some value →
    Reports part.form value (part.form.check value)) :
    (part.check fields).Pairwise Violation.Before := by
  cases found : fields.get? part.key with
  | none =>
      rw [check_of_missing found]
      split
      · exact List.pairwise_singleton _ _
      · exact .nil
  | some value =>
      rw [check_of_found found]
      exact (each value found).ordered_under _

end Part

/-- The keys of a form are checked in order. -/
theorem Form.parts_ordered (form : Form) : form.parts.Pairwise fun first second =>
    PathStep.Before (.key first.key) (.key second.key) := by
  cases form with
  | node levels =>
      cases levels <;> simp [parts, PathStep.Before, keys, List.idxOf, List.findIdx_cons]
  | _ => simp [parts, PathStep.Before, keys, List.idxOf, List.findIdx_cons]

/-- The violations at the keys of an object are reported in order. -/
theorem reports_object (admits : form.admits (.object fields) = true)
    (each : ∀ part ∈ form.parts, ∀ value, fields.get? part.key = some value →
      Reports part.form value (part.form.check value)) :
    Reports form (.object fields) (form.check (.object fields)) where
  mem_iff violation := by
    rw [Form.check_object admits, departs_object_iff admits, List.mem_flatMap]
    apply exists_congr
    intro part
    apply and_congr_right
    intro isPart
    exact Part.mem_check (each part isPart)
  ordered := by
    rw [Form.check_object admits, List.pairwise_flatMap]
    constructor
    · intro part isPart
      exact Part.check_ordered (each part isPart)
    · apply form.parts_ordered.imp_of_mem
      intro first second isFirst isSecond earlier one inFirst other inSecond
      have oneDeparts := (Part.mem_check (each first isFirst)).mp inFirst
      have otherDeparts := (Part.mem_check (each second isSecond)).mp inSecond
      obtain ⟨one, rfl⟩ := oneDeparts.exists_under
      obtain ⟨other, rfl⟩ := otherDeparts.exists_under
      exact Violation.under_before earlier one other

theorem reports_of_not_admits (json : value.isJson = true) (unfit : form.admits value = false) :
    Reports form value (form.check value) where
  mem_iff violation := by
    rw [Form.check_of_not_admits json unfit, departs_of_not_admits unfit, unmet,
      List.mem_singleton]
  ordered := by
    rw [Form.check_of_not_admits json unfit]
    exact List.pairwise_singleton _ _

theorem Form.exists_item?_of_admits (admits : form.admits (.list items) = true) :
    ∃ inner, form.item? = some inner := by
  cases form with
  | texts | nodes _ => exact ⟨_, rfl⟩
  | node levels => cases levels <;> cases admits
  | text | body | document => cases admits

theorem reports_text {held : String} (admits : form.admits (.text held) = true) :
    Reports form (.text held) (form.check (.text held)) := by
  cases form with
  | text =>
      have noDeparture : ∀ violation, ¬ Departs .text (.text held) violation := by
        rintro _ ⟨unfit⟩
        cases unfit
      exact ⟨fun violation => iff_of_false List.not_mem_nil (noDeparture violation), .nil⟩
  | node levels => cases levels <;> cases admits
  | texts | nodes _ | body | document => cases admits

theorem Form.not_admits_atom (atom : ∀ held, value ≠ .text held)
    (noList : ∀ items, value ≠ .list items) (noObject : ∀ fields, value ≠ .object fields) :
    form.admits value = false := by
  rw [admits.eq_def]
  split
  · exact absurd rfl (atom _)
  · exact absurd rfl (noList _)
  · exact absurd rfl (noList _)
  · exact absurd rfl (noObject _)
  · exact absurd rfl (noObject _)
  · exact absurd rfl (noObject _)
  · rfl

end

/-- The check of a form reports the departures of a JSON value from it. -/
theorem check_reports (form : Form) : (value : Value) → value.isJson = true →
    Reports form value (form.check value)
  | .list items, json => by
      cases admits : form.admits (.list items) with
      | false => exact reports_of_not_admits json admits
      | true =>
          obtain ⟨inner, isItem⟩ := Form.exists_item?_of_admits admits
          rw [Value.isJson] at json
          apply reports_list isItem
          intro item member
          exact check_reports inner item (Value.isJson_of_mem json member)
  | .object fields, json => by
      cases admits : form.admits (.object fields) with
      | false => exact reports_of_not_admits json admits
      | true =>
          rw [Value.isJson] at json
          apply reports_object admits
          intro part isPart value found
          have smaller := Fields.sizeOf_lt_of_get? found
          exact check_reports part.form value (Value.isJson_of_get? json found)
  | .text held, json => by
      cases admits : form.admits (.text held) with
      | false => exact reports_of_not_admits json admits
      | true => exact reports_text admits
  | .null, json | .number _, json | .foreign _, json | .entry _, json =>
      reports_of_not_admits json (Form.not_admits_atom nofun nofun nofun)
termination_by value => sizeOf value
decreasing_by
  · simp only [Value.list.sizeOf_spec]
    have smaller := List.sizeOf_lt_of_mem member
    omega
  · simp only [Value.object.sizeOf_spec]
    omega

end CriticalCss.Stylesheet
