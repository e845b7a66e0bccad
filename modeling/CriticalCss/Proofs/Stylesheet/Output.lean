import CriticalCss.Proofs.Json.RoundTrip

/-!
# Which rules have a text

A value has no JSON text exactly if one of its parts, however deep, is refused by itself: an
infinite or undefined number, a whole number of too many digits, or something that JSON has no
notation for.  Rules without such parts are written under every indentation that can be made, and
read back as they are; rules with such a part are a fault of the output.  An indentation that cannot
be made is not: it has a fault of its own.
-/

namespace CriticalCss

/-! ## The parts of a value -/

namespace Value

/-- A value is a part of itself, and what is within the items of a list or the values of an object
is a part of the list or object. -/
inductive Within (part : Value) : Value → Prop where
  | whole : Within part part
  | item {items : List Value} {item : Value} :
      item ∈ items → Within part item → Within part (.list items)
  | field {fields : Fields} {field : String × Value} :
      field ∈ fields → Within part field.2 → Within part (.object fields)

/-- JSON has a notation for the value itself, whatever the value holds. -/
def HasNotation : Value → Prop
  | .number held => held.IsFinite
  | .foreign _ | .entry _ => False
  | _ => True

end Value

namespace Json

/-- A value is refused by itself, for a reason. -/
inductive Refuses (layout : Layout) : Value → Unwritable → Prop where
  | notFinite {value : Binary64} : ¬ (Number.real value).IsFinite →
      Refuses layout (.number (.real value)) (.notFinite (layout.indent.map fun _ => value))
  | tooLong {value : Int} : ¬ (Number.whole value).IsShort →
      Refuses layout (.number (.whole value)) .tooLong
  | foreign (kind : Foreign) : Refuses layout (.foreign kind) (.noNotation (.foreign kind))
  | entry (held : ForceInclude) : Refuses layout (.entry held) (.noNotation .entry)

section

variable {layout : Layout} {level : Nat} {reason : Unwritable} {chars : List Char}

theorem refuses_of_writeNumber {number : Number}
    (failed : writeNumber layout number = .error reason) :
    Refuses layout (.number number) reason := by
  cases number with
  | truth held => cases held <;> cases failed
  | whole value =>
      rw [writeNumber] at failed
      split at failed
      next long =>
        cases failed
        exact .tooLong (by simp [Number.IsShort, long])
      next => cases failed
  | real value =>
      cases value with
      | finite value => cases failed
      | nan | infinite _ =>
          cases failed
          exact .notFinite id

mutual

/-- What cannot be written has a part that is refused by itself. -/
theorem exists_refused : (value : Value) → {level : Nat} →
    writeValue layout level value = .error reason →
    ∃ part, part.Within value ∧ Refuses layout part reason
  | .null, _, failed | .text _, _, failed | .list [], _, failed | .object [], _, failed => by
      cases failed
  | .number _, _, failed => ⟨_, .whole, refuses_of_writeNumber failed⟩
  | .foreign kind, _, failed => by
      cases failed
      exact ⟨_, .whole, .foreign kind⟩
  | .entry held, _, failed => by
      cases failed
      exact ⟨_, .whole, .entry held⟩
  | .list (first :: rest), _, failed => by
      rw [writeValue] at failed
      rcases error_of_bind failed with inFirst | ⟨_, -, failed⟩
      · obtain ⟨part, within, refuses⟩ := exists_refused first inFirst
        exact ⟨part, .item (by simp) within, refuses⟩
      rcases error_of_bind failed with inRest | ⟨_, -, failed⟩
      · obtain ⟨item, member, part, within, refuses⟩ := exists_refused_item rest inRest
        exact ⟨part, .item (by simp [member]) within, refuses⟩
      · cases failed
  | .object ((key, first) :: rest), _, failed => by
      rw [writeValue] at failed
      rcases error_of_bind failed with inFirst | ⟨_, -, failed⟩
      · obtain ⟨part, within, refuses⟩ := exists_refused first inFirst
        have member : (key, first) ∈ (key, first) :: rest := by simp
        exact ⟨part, .field member within, refuses⟩
      rcases error_of_bind failed with inRest | ⟨_, -, failed⟩
      · obtain ⟨field, member, part, within, refuses⟩ := exists_refused_field rest inRest
        exact ⟨part, .field (by simp [member]) within, refuses⟩
      · cases failed

theorem exists_refused_item : (items : List Value) → {level : Nat} →
    writeItems layout level items = .error reason →
    ∃ item ∈ items, ∃ part, part.Within item ∧ Refuses layout part reason
  | [], _, failed => by cases failed
  | item :: rest, _, failed => by
      rw [writeItems] at failed
      rcases error_of_bind failed with inFirst | ⟨_, -, failed⟩
      · exact ⟨item, by simp, exists_refused item inFirst⟩
      rcases error_of_bind failed with inRest | ⟨_, -, failed⟩
      · obtain ⟨other, member, found⟩ := exists_refused_item rest inRest
        exact ⟨other, by simp [member], found⟩
      · cases failed

theorem exists_refused_field : (fields : List (String × Value)) → {level : Nat} →
    writeFields layout level fields = .error reason →
    ∃ field ∈ fields, ∃ part, part.Within field.2 ∧ Refuses layout part reason
  | [], _, failed => by cases failed
  | (key, value) :: rest, _, failed => by
      rw [writeFields] at failed
      rcases error_of_bind failed with inFirst | ⟨_, -, failed⟩
      · exact ⟨(key, value), by simp, exists_refused value inFirst⟩
      rcases error_of_bind failed with inRest | ⟨_, -, failed⟩
      · obtain ⟨other, member, found⟩ := exists_refused_field rest inRest
        exact ⟨other, by simp [member], found⟩
      · cases failed

end

theorem written_item {items : List Value} {item : Value} (member : item ∈ items)
    (written : writeItems layout level items = .ok chars) :
    ∃ text, writeValue layout level item = .ok text := by
  induction items generalizing chars with
  | nil => cases member
  | cons first rest ih =>
      rw [writeItems] at written
      obtain ⟨head, headIs, written⟩ := exists_ok_of_bind written
      obtain ⟨tail, tailIs, _⟩ := exists_ok_of_bind written
      rcases List.mem_cons.mp member with rfl | member
      · exact ⟨head, headIs⟩
      · exact ih member tailIs

theorem written_field {fields : Fields} {field : String × Value} (member : field ∈ fields)
    (written : writeFields layout level fields = .ok chars) :
    ∃ text, writeValue layout level field.2 = .ok text := by
  induction fields generalizing chars with
  | nil => cases member
  | cons first rest ih =>
      rw [writeFields] at written
      obtain ⟨head, headIs, written⟩ := exists_ok_of_bind written
      obtain ⟨tail, tailIs, _⟩ := exists_ok_of_bind written
      rcases List.mem_cons.mp member with rfl | member
      · exact ⟨head, headIs⟩
      · exact ih member tailIs

/-- Whatever is within a written value has been written, on some level. -/
theorem written_part {part value : Value} (within : part.Within value)
    (written : writeValue layout level value = .ok chars) :
    ∃ level text, writeValue layout level part = .ok text := by
  induction within generalizing level chars with
  | whole => exact ⟨level, chars, written⟩
  | @item items item member _ ih =>
      cases items with
      | nil => cases member
      | cons first rest =>
          rw [writeValue] at written
          obtain ⟨head, headIs, written⟩ := exists_ok_of_bind written
          obtain ⟨tail, tailIs, _⟩ := exists_ok_of_bind written
          rcases List.mem_cons.mp member with rfl | member
          · exact ih headIs
          · obtain ⟨text, itemIs⟩ := written_item member tailIs
            exact ih itemIs
  | @field fields field member _ ih =>
      cases fields with
      | nil => cases member
      | cons first rest =>
          rw [writeValue] at written
          obtain ⟨head, headIs, written⟩ := exists_ok_of_bind written
          obtain ⟨tail, tailIs, _⟩ := exists_ok_of_bind written
          rcases List.mem_cons.mp member with rfl | member
          · exact ih headIs
          · obtain ⟨text, fieldIs⟩ := written_field member tailIs
            exact ih fieldIs

/-- A part without a notation is not written. -/
theorem not_written {part : Value} (noNotation : ¬ part.HasNotation) :
    writeValue layout level part ≠ .ok chars := by
  intro written
  cases part with
  | number held =>
      cases held with
      | real value =>
          cases value with
          | finite value => exact noNotation trivial
          | nan | infinite _ => cases written
      | whole _ | truth _ => exact noNotation trivial
  | foreign _ | entry _ => cases written
  | null | text _ | list _ | object _ => exact noNotation trivial

end

end Json

/-! ## The text of rules -/

theorem Fault.label_of_output {fault : Fault} (output : fault.family = .output) :
    fault.label = "OutputError" := by
  cases fault <;> first | rfl | simp_all [Fault.family, Fault.label]

namespace Stylesheet

/-- No indentation, or a number of spaces.  A truth value counts as one or zero. -/
inductive IsIndent : Value → Prop where
  | absent : IsIndent .null
  | spaces (count : Int) : IsIndent (.ofInt count)
  | truth (held : Bool) : IsIndent (.ofBool held)

/-- The indentation itself cannot be made: its number is not one of characters, or there is no room
for so many.  The fault is known by a label. -/
inductive IndentSlips (room : Nat) : Value → (label : String) → Prop where
  | uncountable {count : Int} : Json.isCount count = false →
      IndentSlips room (.ofInt count) "OverflowError"
  | roomless {count : Int} : Json.isCount count = true → room < count →
      IndentSlips room (.ofInt count) "MemoryError"

section

variable {room : Nat} {indent : Value} {label : String} {step : Option (List Char)}
  {reason : Json.Unwritable} {nodes : List Value}

theorem indentOf_of_uncountable {count : Int} (uncountable : Json.isCount count = false) :
    Json.indentOf room (.ofInt count) = .error .indentTooLarge := by
  simp [Json.indentOf, Value.ofInt, Json.spaces, uncountable, Except.map]

theorem indentOf_of_roomless {count : Int} (countable : Json.isCount count = true)
    (more : room < count) : Json.indentOf room (.ofInt count) = .error .indentOutOfMemory := by
  have more : room < count.toNat := by omega
  simp [Json.indentOf, Value.ofInt, Json.spaces, countable, more, Except.map]

theorem indentOf_of_fits {count : Int} (countable : Json.isCount count = true)
    (fits : count ≤ room) :
    Json.indentOf room (.ofInt count) = .ok (some (List.replicate count.toNat ' ')) := by
  have notMore : ¬ room < count.toNat := by omega
  simp [Json.indentOf, Value.ofInt, Json.spaces, countable, notMore, Except.map]

/-- Spaces are made unless there are too many of them. -/
theorem spaces_cases (room : Nat) (count : Int) :
    (Json.indentOf room (.ofInt count) = .ok (some (List.replicate count.toNat ' ')) ∧
      ∀ label, ¬ IndentSlips room (.ofInt count) label) ∨
    ∃ reason, Json.indentOf room (.ofInt count) = .error reason ∧
      IndentSlips room (.ofInt count) (Fault.unwritable reason).label := by
  cases countable : Json.isCount count with
  | false =>
      right
      exact ⟨_, indentOf_of_uncountable countable, .uncountable countable⟩
  | true =>
      by_cases fits : count ≤ room
      · left
        refine ⟨indentOf_of_fits countable fits, ?_⟩
        rintro label (uncountable | ⟨-, more⟩)
        · cases countable.symm.trans uncountable
        · omega
      · have more : room < count := by omega
        right
        exact ⟨_, indentOf_of_roomless countable more, .roomless countable more⟩

/-- An indentation is made and blank, or it slips. -/
theorem IsIndent.cases (isIndent : IsIndent indent) (room : Nat) :
    ((∃ step, Json.indentOf room indent = .ok step ∧ (Json.Layout.mk false step).IsBlank) ∧
      ∀ label, ¬ IndentSlips room indent label) ∨
    ∃ reason, Json.indentOf room indent = .error reason ∧
      IndentSlips room indent (Fault.unwritable reason).label := by
  cases isIndent with
  | absent => exact .inl ⟨⟨none, rfl, by rintro step ⟨⟩⟩, by rintro label ⟨⟩⟩
  | spaces count =>
      refine (spaces_cases room count).imp_left fun ⟨made, noSlip⟩ => ⟨⟨_, made, ?_⟩, noSlip⟩
      rintro step ⟨⟩ char member
      rw [List.eq_of_mem_replicate member]
      rfl
  | truth held =>
      refine .inl ⟨⟨_, rfl, ?_⟩, by rintro label ⟨⟩⟩
      rintro step ⟨⟩ char member
      cases held with
      | false => cases member
      | true =>
          rw [List.mem_singleton.mp member]
          rfl

theorem toJson_of_step (stepIs : Json.indentOf room indent = .ok step) :
    toJson room (.list nodes) indent = match Json.write ⟨false, step⟩ (.list nodes) with
      | .ok text => .ok text
      | .error reason => .error (.unwritable reason) := by
  rw [toJson]
  simp only [Value.elements?, stepIs]
  rfl

theorem toJson_of_unmade (failed : Json.indentOf room indent = .error reason) :
    toJson room (.list nodes) indent = .error (.unwritable reason) := by
  rw [toJson]
  simp only [Value.elements?, failed]
  rfl

/-- Rules without a key twice are read back from their text. -/
theorem read_of_toJson {text : String} (stepIs : Json.indentOf room indent = .ok step)
    (blank : (Json.Layout.mk false step).IsBlank)
    (unique : ∀ node ∈ nodes, node.HasUniqueKeys)
    (written : toJson room (.list nodes) indent = .ok text) :
    Json.read text = .ok (.list nodes) := by
  rw [toJson_of_step stepIs] at written
  split at written
  next wrote =>
    cases written
    exact Json.read_written rfl blank (.list unique) wrote
  next => cases written

/-- Rules that have no text are a fault of the output. -/
theorem family_of_toJson {fault : Fault} (stepIs : Json.indentOf room indent = .ok step)
    (failed : toJson room (.list nodes) indent = .error fault) : fault.family = .output := by
  rw [toJson_of_step stepIs, Json.write] at failed
  cases wrote : Json.writeValue ⟨false, step⟩ 0 (.list nodes) with
  | ok chars =>
      rw [wrote] at failed
      cases failed
  | error reason =>
      rw [wrote] at failed
      cases failed
      obtain ⟨part, -, refuses⟩ := Json.exists_refused _ wrote
      cases refuses <;> rfl

theorem toJson_ne_ok {part : Value} (within : part.Within (.list nodes))
    (noNotation : ¬ part.HasNotation) (text : String) :
    toJson room (.list nodes) indent ≠ .ok text := by
  intro written
  simp only [toJson, Value.elements?] at written
  split at written
  next wrote =>
    obtain ⟨step, -, wrote⟩ := exists_ok_of_bind wrote
    cases chars : Json.writeValue ⟨false, step⟩ 0 (.list nodes) with
    | ok chars =>
        obtain ⟨level, inner, partIs⟩ := Json.written_part within chars
        exact Json.not_written noNotation partIs
    | error reason =>
        rw [Json.write, chars] at wrote
        cases wrote
  next => cases written

/-- What slips is no fault of the output. -/
theorem IndentSlips.label_ne (slips : IndentSlips room indent label) : label ≠ "OutputError" := by
  cases slips <;> decide

/-- An indentation that slips does so on any rules, and always in the same way. -/
theorem IndentSlips.toJson_eq (slips : IndentSlips room indent label) (nodes : List Value) :
    ∃ fault, toJson room (.list nodes) indent = .error fault ∧ fault.label = label := by
  cases slips with
  | uncountable uncountable =>
      exact ⟨_, toJson_of_unmade (indentOf_of_uncountable uncountable), rfl⟩
  | roomless countable more =>
      exact ⟨_, toJson_of_unmade (indentOf_of_roomless countable more), rfl⟩

end

/-- What is wrong with rules or their indentation is a fault of the output, unless the indentation
cannot be made.  Under every other indentation, rules that are made of what JSON has a notation for
are written and read back as they are: with the same keys in the same order and the same numbers of
the same kind; and rules that somewhere hold anything else are a fault of the output. -/
theorem output_slips_iff {indent : Value} (isIndent : IsIndent indent) (room : Nat)
    (nodes : List Value) :
    (∀ label, (∃ fault, toJson room (.list nodes) indent = .error fault ∧ fault.label = label ∧
      label ≠ "OutputError") ↔ IndentSlips room indent label) ∧
    ((∀ label, ¬ IndentSlips room indent label) →
      ((∀ node ∈ nodes, node.MadeOf fun number => number.IsFinite ∧ number.IsShort) →
        (∀ node ∈ nodes, node.HasUniqueKeys) →
        ∃ text, toJson room (.list nodes) indent = .ok text ∧
          Json.read text = .ok (.list nodes)) ∧
      (∀ part : Value, part.Within (.list nodes) → ¬ part.HasNotation →
        ∃ fault, toJson room (.list nodes) indent = .error fault ∧
          fault.label = "OutputError")) := by
  have made := isIndent.cases room
  refine ⟨fun label => ⟨?slips, ?fails⟩, fun noSlip => ⟨?written, ?refused⟩⟩
  case slips =>
    rintro ⟨fault, failed, rfl, notOutput⟩
    rcases made with ⟨⟨step, stepIs, -⟩, -⟩ | ⟨reason, unmade, slips⟩
    · exact absurd (Fault.label_of_output (family_of_toJson stepIs failed)) notOutput
    · cases (toJson_of_unmade unmade).symm.trans failed
      exact slips
  case fails =>
    intro slips
    obtain ⟨fault, failed, labelled⟩ := slips.toJson_eq nodes
    exact ⟨fault, failed, labelled, slips.label_ne⟩
  all_goals
    obtain ⟨⟨step, stepIs, blank⟩, -⟩ :=
      made.resolve_right fun ⟨_, _, slips⟩ => noSlip _ slips
  case written =>
    intro each unique
    obtain ⟨text, written⟩ := toJson_ok each stepIs
    exact ⟨text, written, read_of_toJson stepIs blank unique written⟩
  case refused =>
    intro part within noNotation
    cases outcome : toJson room (.list nodes) indent with
    | ok text => exact absurd outcome (toJson_ne_ok within noNotation text)
    | error fault =>
        exact ⟨fault, rfl, Fault.label_of_output (family_of_toJson stepIs outcome)⟩

/-- A rule with a key that has to be escaped, and with a real and a whole zero. -/
def zeroRule : Value :=
  .object [("type", .text "rule"), ("\x22\n😀",
    .list [.number (.real (.finite ⟨true, 0, 0, by decide⟩)), .ofInt 0, .object [], .null])]

/-- A set inside a rule. -/
def setRule : Value := .object [("type", .text "rule"), ("selectors", .foreign .emptySet)]

theorem zeroRule_madeOf :
    zeroRule.MadeOf fun number => number.IsFinite ∧ number.IsShort := by
  have real : Value.MadeOf (fun number => number.IsFinite ∧ number.IsShort)
    (.number (.real (.finite ⟨true, 0, 0, by decide⟩))) := .number ⟨trivial, trivial⟩
  have whole : Value.MadeOf (fun number => number.IsFinite ∧ number.IsShort) (.ofInt 0) :=
    .number ⟨trivial, @Json.isShort_of_digits ['0'] (by simp) (by decide) false⟩
  have empty : Value.MadeOf (fun number => number.IsFinite ∧ number.IsShort) (.object []) :=
    .object (by simp)
  exact .object (by simpa using ⟨.text "rule", .list (by simpa using ⟨real, whole, empty, .null⟩)⟩)

theorem zeroRule_hasUniqueKeys : zeroRule.HasUniqueKeys := by
  have empty : Value.HasUniqueKeys (.object []) := .object List.nodup_nil (by simp)
  refine .object (by simp [Fields.HasUniqueKeys]) ?_
  simpa using ⟨.text "rule", .list (by simpa using ⟨.number _, .number _, empty, .null⟩)⟩

theorem zeroRule_written :
    (∃ text, toJson 80 (.list [zeroRule]) (.ofInt 2) = .ok text ∧
      Json.read text = .ok (.list [zeroRule])) ∧
    (∃ fault, toJson 80 (.list [zeroRule, setRule]) .null = .error fault ∧
      fault.label = "OutputError") ∧
    ∃ fault, toJson 80 (.list [zeroRule]) (.ofInt 81) = .error fault ∧
      fault.label = "MemoryError" := by
  have fits : ∀ label, ¬ IndentSlips 80 (.ofInt 2) label := by
    rintro label (uncountable | ⟨-, more⟩)
    · cases uncountable
    · exact absurd more (by decide)
  have absent : ∀ label, ¬ IndentSlips 80 .null label := by rintro label ⟨⟩
  have member : ("selectors", Value.foreign .emptySet) ∈
      [("type", .text "rule"), ("selectors", .foreign .emptySet)] := by simp
  have inRule : (Value.foreign .emptySet).Within setRule := .field member .whole
  refine ⟨?_, ?_, ?_⟩
  · exact ((output_slips_iff (.spaces 2) 80 [zeroRule]).2 fits).1 (by simpa using zeroRule_madeOf)
      (by simpa using zeroRule_hasUniqueKeys)
  · exact ((output_slips_iff .absent 80 [zeroRule, setRule]).2 absent).2 _
      (.item (by simp) inRule) id
  · obtain ⟨fault, failed, labelled, -⟩ :=
      ((output_slips_iff (.spaces 81) 80 [zeroRule]).1 "MemoryError").2
        (.roomless rfl (by decide))
    exact ⟨fault, failed, labelled⟩

/-- A number of spaces may be too large for any text, also where nothing is to be indented. -/
theorem huge_indent_is_refused :
    (∀ room, toJson room (.list []) (.ofInt 1000000000000000000000000000000) =
      .error (.unwritable .indentTooLarge)) ∧
    (Fault.unwritable .indentTooLarge).label = "OverflowError" := ⟨fun _ => rfl, rfl⟩

end Stylesheet

end CriticalCss
