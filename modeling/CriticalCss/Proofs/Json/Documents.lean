import CriticalCss.Json.Reader
import CriticalCss.Json.Writer
import CriticalCss.Proofs.Failing
import CriticalCss.Proofs.Numerals
import CriticalCss.Proofs.Stylesheet.WellFormed
import CriticalCss.Value.Shown

/-!
# What JSON texts express

A value that has been read from a JSON text is made of null, numbers, texts, lists and
objects, and none of its whole numbers has too many digits.  Of the values that are made like
that, those without an infinite or an undefined number can be written.
-/

namespace CriticalCss

namespace Number

/-- Neither infinite nor undefined. -/
def IsFinite : Number → Prop
  | real (.finite _) => True
  | real _ => False
  | _ => True

/-- Of no more digits than are read and written. -/
def IsShort : Number → Prop
  | whole value => Integer.isTooLong value = false
  | _ => True

end Number

namespace Value

/-- A value that a JSON text can express, with numbers that all satisfy a condition. -/
inductive MadeOf (condition : Number → Prop) : Value → Prop where
  | null : MadeOf condition null
  | number {held : Number} : condition held → MadeOf condition (number held)
  | text (held : String) : MadeOf condition (text held)
  | list {items : List Value} :
      (∀ item ∈ items, MadeOf condition item) → MadeOf condition (list items)
  | object {fields : Fields} :
      (∀ field ∈ fields, MadeOf condition field.2) → MadeOf condition (object fields)

theorem itemsAreJson_of_forall {items : List Value}
    (each : ∀ item ∈ items, item.isJson = true) : itemsAreJson items = true := by
  induction items with
  | nil => rfl
  | cons item rest ih =>
      rw [itemsAreJson, each item (by simp), ih fun other member => each other (by simp [member])]
      rfl

theorem fieldsAreJson_of_forall {fields : Fields}
    (each : ∀ field ∈ fields, field.2.isJson = true) : fieldsAreJson fields = true := by
  induction fields with
  | nil => rfl
  | cons field rest ih =>
      rw [fieldsAreJson, each field (by simp),
        ih fun other member => each other (by simp [member])]
      rfl

namespace MadeOf

variable {first second : Number → Prop} {value : Value} {fields : Fields} {key : String}

theorem isJson (madeOf : value.MadeOf first) : value.isJson = true := by
  induction madeOf with
  | null | number _ | text _ => rfl
  | list _ ih =>
      rw [Value.isJson]
      exact itemsAreJson_of_forall ih
  | object _ ih =>
      rw [Value.isJson]
      exact fieldsAreJson_of_forall ih

theorem and (one : value.MadeOf first) (other : value.MadeOf second) :
    value.MadeOf fun number => first number ∧ second number := by
  induction one with
  | null => exact .null
  | text held => exact .text held
  | number holds =>
      cases other with
      | number alsoHolds => exact .number ⟨holds, alsoHolds⟩
  | list _ ih =>
      cases other with
      | list others => exact .list fun item member => ih item member (others item member)
  | object _ ih =>
      cases other with
      | object others => exact .object fun field member => ih field member (others field member)

end MadeOf

/-- A value in which no object has a key twice. -/
inductive HasUniqueKeys : Value → Prop where
  | null : HasUniqueKeys null
  | number (held : Number) : HasUniqueKeys (number held)
  | text (held : String) : HasUniqueKeys (text held)
  | list {items : List Value} : (∀ item ∈ items, HasUniqueKeys item) → HasUniqueKeys (list items)
  | object {fields : Fields} : fields.HasUniqueKeys →
      (∀ field ∈ fields, HasUniqueKeys field.2) → HasUniqueKeys (object fields)

/-- A property that comes down from lists and objects to what they hold, and that is kept by another
list of what has it and by setting a key to a value that has it. -/
structure IsInherited (holds : Value → Prop) : Prop where
  list : ∀ {items : List Value}, (∀ item ∈ items, holds item) → holds (.list items)
  item : ∀ {items : List Value}, holds (.list items) → ∀ item ∈ items, holds item
  put : ∀ {fields : Fields} {key : String} {value : Value}, holds (.object fields) → holds value →
    holds (.object (fields.put key value))
  field : ∀ {fields : Fields}, holds (.object fields) → ∀ field ∈ fields, holds field.2

namespace IsInherited

variable {holds : Value → Prop} {fields : Fields} {key : String} {value : Value}

theorem get? (inherited : IsInherited holds) (held : holds (.object fields))
    (found : fields.get? key = some value) : holds value := by
  obtain ⟨front, back, fieldsAre, _⟩ := List.lookup_eq_some_iff.mp found
  exact inherited.field held (key, value) (by simp [fieldsAre])

/-- The list under a key inherits from the object. -/
theorem listAt (inherited : IsInherited holds) (held : holds (.object fields)) :
    ∀ item ∈ fields.listAt key, holds item := by
  rw [Fields.listAt]
  split
  next items found => exact inherited.item (inherited.get? held found)
  next => simp

end IsInherited

theorem IsInherited.madeOf (condition : Number → Prop) : IsInherited (MadeOf condition) where
  list := .list
  item | .list each => each
  put | .object each, new => .object (Fields.forall_put each new)
  field | .object each => each

theorem IsInherited.hasUniqueKeys : IsInherited HasUniqueKeys where
  list := .list
  item | .list each => each
  put | .object unique each, new => .object (unique.put _ _) (Fields.forall_put each new)
  field | .object _ each => each

end Value

namespace Json

/-! ## Reading -/

theorem isDigit_of_wholePart {text whole rest : List Char}
    (found : wholePart text = some (whole, rest)) : ∀ char ∈ whole, char.isDigit = true := by
  simp only [wholePart] at found
  split at found
  · cases found
    exact fun char member => by cases List.mem_singleton.mp member; rfl
  · split at found
    · cases found
      exact List.all_eq_true.mp List.all_takeWhile
    · cases found
  · cases found

/-- So many digits stand for less than that power of ten. -/
theorem ofDigitChars_lt {digits : List Char} (each : ∀ char ∈ digits, char.isDigit = true) :
    Nat.ofDigitChars 10 digits 0 < Nat.pow 10 digits.length := by
  induction digits with
  | nil => decide
  | cons char rest ih =>
      have ⟨_, high⟩ := Text.toNat_of_isDigit (each char (by simp))
      have shorter := ih fun other member => each other (by simp [member])
      have digit : char.toNat - '0'.toNat ≤ 9 := by
        have zero : '0'.toNat = 48 := rfl
        omega
      have scaled : Nat.pow 10 rest.length * (char.toNat - '0'.toNat) ≤
          Nat.pow 10 rest.length * 9 := Nat.mul_le_mul_left _ digit
      rw [Nat.ofDigitChars_cons, Nat.ofDigitChars_eq_ofDigitChars_zero, List.length_cons,
        Nat.pow_eq, Nat.pow_succ, Nat.mul_zero, Nat.zero_add]
      simp only [Nat.pow_eq] at shorter scaled
      omega

theorem ofDigitChars_lt_of_length_le {digits : List Char} {limit : Nat}
    (each : ∀ char ∈ digits, char.isDigit = true) (length : digits.length ≤ limit) :
    Nat.ofDigitChars 10 digits 0 < Nat.pow 10 limit :=
  Nat.lt_of_lt_of_le (ofDigitChars_lt each) (Nat.pow_le_pow_right (by decide) length)

/-- A whole number that is read has no more digits than are read. -/
theorem isShort_of_digits {digits : List Char} (each : ∀ char ∈ digits, char.isDigit = true)
    (length : digits.length ≤ Integer.digitLimit) (negative : Bool) :
    Number.IsShort (.whole (if negative then -(Nat.ofDigitChars 10 digits 0 : Int)
      else Nat.ofDigitChars 10 digits 0)) := by
  have small := ofDigitChars_lt_of_length_le each length
  have size : (if negative then -(Nat.ofDigitChars 10 digits 0 : Int)
      else Nat.ofDigitChars 10 digits 0).natAbs = Nat.ofDigitChars 10 digits 0 := by
    cases negative <;> simp
  rw [Number.IsShort, Integer.isTooLong, size]
  exact decide_eq_false (Nat.not_le.mpr small)

theorem readMagnitude_isShort {negative : Bool} {text rest : List Char} {number : Number}
    (found : readMagnitude negative text = some (.ok number, rest)) : number.IsShort := by
  rw [readMagnitude] at found
  split at found
  · cases found
  next whole behind wholeIs =>
    simp only at found
    split at found
    · split at found
      · cases found
      next notTooLong =>
        cases found
        exact isShort_of_digits (isDigit_of_wholePart wholeIs) (Nat.le_of_not_lt notTooLong) _
    · cases found
      trivial

theorem readNumber_isShort {text rest : List Char} {number : Number}
    (found : readNumber text = some (.ok number, rest)) : number.IsShort := by
  simp only [readNumber] at found
  split at found <;> exact readMagnitude_isShort found

/-- A property of every value that can be read, by how it is put together. -/
structure IsReadable (holds : Value → Prop) : Prop where
  null : holds .null
  number : ∀ {held : Number}, held.IsShort → holds (.number held)
  text : ∀ held : String, holds (.text held)
  list : ∀ {items : List Value}, (∀ item ∈ items, holds item) → holds (.list items)
  object : ∀ {pairs : List (String × Value)}, (∀ pair ∈ pairs, holds pair.2) →
    holds (.object (Fields.ofPairs pairs))

section

variable {holds : Value → Prop}

theorem IsReadable.word (readable : IsReadable holds) : ∀ word ∈ words, holds word.2 := by
  have number {held : Number} : held.IsShort → holds (.number held) := readable.number
  simp only [words, List.forall_mem_cons, List.not_mem_nil, false_imp_iff, implies_true, and_true]
  exact ⟨readable.null, number trivial, number trivial, number trivial, number trivial,
    number trivial⟩

theorem IsReadable.atom (readable : IsReadable holds) {text rest : List Char} {value : Value}
    (found : readAtom text = .ok (value, rest)) : holds value := by
  rw [readAtom] at found
  split at found
  next word isWord =>
    cases found
    obtain ⟨entry, isEntry, same⟩ := Option.map_eq_some_iff.mp isWord
    cases same
    exact readable.word entry (List.mem_of_find?_eq_some isEntry)
  next =>
    split at found
    next number behind isNumber =>
      cases found
      exact readable.number (readNumber_isShort isNumber)
    · cases found
    · cases found

mutual

theorem IsReadable.value (readable : IsReadable holds) {text rest : List Char} {value : Value} :
    (fuel : Nat) → readValue fuel text = .ok (value, rest) → holds value
  | 0, found => by
      rw [readValue] at found
      cases found
  | fuel + 1, found => by
      rw [readValue.eq_def] at found
      simp only at found
      split at found
      · obtain ⟨⟨chars, behind⟩, _, ended⟩ := exists_ok_of_bind found
        cases ended
        exact readable.text chars
      · split at found
        · cases found
          exact readable.list (by simp)
        · obtain ⟨⟨items, behind⟩, itemsAre, ended⟩ := exists_ok_of_bind found
          cases ended
          exact readable.list (readable.items fuel itemsAre)
      · split at found
        · cases found
          have noPairs : ∀ pair ∈ ([] : List (String × Value)), holds pair.2 := by simp
          exact readable.object noPairs
        · obtain ⟨⟨pairs, behind⟩, pairsAre, ended⟩ := exists_ok_of_bind found
          cases ended
          exact readable.object (readable.pairs fuel pairsAre)
      · exact readable.atom found

theorem IsReadable.items (readable : IsReadable holds) {text rest : List Char}
    {items : List Value} :
    (fuel : Nat) → readItems fuel text = .ok (items, rest) → ∀ item ∈ items, holds item
  | 0, found => by
      rw [readItems] at found
      cases found
  | fuel + 1, found => by
      rw [readItems] at found
      obtain ⟨⟨first, behind⟩, firstIs, found⟩ := exists_ok_of_bind found
      have firstHolds := readable.value fuel firstIs
      simp only at found
      split at found
      · cases found
        simpa using firstHolds
      · obtain ⟨⟨others, behind⟩, othersAre, ended⟩ := exists_ok_of_bind found
        cases ended
        exact List.forall_mem_cons.mpr ⟨firstHolds, readable.items fuel othersAre⟩
      · cases found

theorem IsReadable.pairs (readable : IsReadable holds) {text rest : List Char}
    {pairs : List (String × Value)} :
    (fuel : Nat) → readPairs fuel text = .ok (pairs, rest) → ∀ pair ∈ pairs, holds pair.2
  | 0, found => by
      rw [readPairs] at found
      cases found
  | fuel + 1, found => by
      rw [readPairs.eq_def] at found
      simp only at found
      split at found
      · obtain ⟨⟨key, behind⟩, _, found⟩ := exists_ok_of_bind found
        simp only at found
        split at found
        · obtain ⟨⟨value, behind⟩, valueIs, found⟩ := exists_ok_of_bind found
          have valueHolds := readable.value fuel valueIs
          simp only at found
          split at found
          · cases found
            simpa using valueHolds
          · obtain ⟨⟨others, behind⟩, othersAre, ended⟩ := exists_ok_of_bind found
            cases ended
            exact List.forall_mem_cons.mpr ⟨valueHolds, readable.pairs fuel othersAre⟩
          · cases found
        · cases found
      · cases found

end

/-- What is read from a text has every such property. -/
theorem IsReadable.holds_of_read (readable : IsReadable holds) {text : String} {value : Value}
    (found : read text = .ok value) : holds value := by
  rw [read] at found
  simp only at found
  split at found
  · cases found
  · obtain ⟨⟨whole, behind⟩, wholeIs, found⟩ := exists_ok_of_bind found
    simp only at found
    split at found
    · cases found
      exact readable.value _ wholeIs
    · cases found

end

/-- What is read from a JSON text can be expressed by one, and its whole numbers are not too
long. -/
theorem read_madeOf {text : String} {value : Value} (found : read text = .ok value) :
    value.MadeOf Number.IsShort := by
  have readable : IsReadable (Value.MadeOf Number.IsShort) := {
    null := .null
    number := .number
    text := .text
    list := .list
    object := fun each => .object (Fields.forall_ofPairs each) }
  exact readable.holds_of_read found

/-- What is read from a JSON text has no key twice: of a repeated key the last value counts. -/
theorem read_hasUniqueKeys {text : String} {value : Value} (found : read text = .ok value) :
    value.HasUniqueKeys := by
  have readable : IsReadable Value.HasUniqueKeys := {
    null := .null
    number := fun _ => .number _
    text := .text
    list := .list
    object := fun each => .object (.ofPairs _) (Fields.forall_ofPairs each) }
  exact readable.holds_of_read found

/-! ## Writing -/

section

variable {layout : Layout}

theorem writeNumber_ok {number : Number} (finite : number.IsFinite) (short : number.IsShort) :
    ∃ chars, writeNumber layout number = .ok chars := by
  cases number with
  | truth held => cases held <;> exact ⟨_, rfl⟩
  | whole value =>
      have fits : Integer.isTooLong value = false := short
      exact ⟨_, by rw [writeNumber, fits, if_neg (by simp)]⟩
  | real value =>
      cases value with
      | finite value => exact ⟨_, rfl⟩
      | nan | infinite _ => exact finite.elim

theorem writeItems_ok {level : Nat} {items : List Value}
    (each : ∀ item ∈ items, ∃ chars, writeValue layout level item = .ok chars) :
    ∃ chars, writeItems layout level items = .ok chars := by
  induction items with
  | nil => exact ⟨_, rfl⟩
  | cons item rest ih =>
      obtain ⟨head, headIs⟩ := each item (by simp)
      obtain ⟨tail, tailIs⟩ := ih fun other member => each other (by simp [member])
      rw [writeItems, headIs, tailIs]
      exact ⟨_, rfl⟩

theorem writeFields_ok {level : Nat} {fields : Fields}
    (each : ∀ field ∈ fields, ∃ chars, writeValue layout level field.2 = .ok chars) :
    ∃ chars, writeFields layout level fields = .ok chars := by
  induction fields with
  | nil => exact ⟨_, rfl⟩
  | cons field rest ih =>
      obtain ⟨head, headIs⟩ := each field (by simp)
      obtain ⟨tail, tailIs⟩ := ih fun other member => each other (by simp [member])
      rw [writeFields, headIs, tailIs]
      exact ⟨_, rfl⟩

/-- A value without infinite, undefined and too long numbers can be written. -/
theorem writeValue_ok {value : Value}
    (madeOf : value.MadeOf fun number => number.IsFinite ∧ number.IsShort) (level : Nat) :
    ∃ chars, writeValue layout level value = .ok chars := by
  induction madeOf generalizing level with
  | null => exact ⟨_, rfl⟩
  | text held => exact ⟨_, rfl⟩
  | number holds =>
      rw [writeValue]
      exact writeNumber_ok holds.1 holds.2
  | @list items _ ih =>
      cases items with
      | nil => exact ⟨_, rfl⟩
      | cons first rest =>
          obtain ⟨head, headIs⟩ := ih first (by simp) (level + 1)
          have others : ∀ item ∈ rest, ∃ chars, writeValue layout (level + 1) item = .ok chars :=
            fun item member => ih item (by simp [member]) (level + 1)
          obtain ⟨tail, tailIs⟩ := writeItems_ok others
          rw [writeValue, headIs, tailIs]
          exact ⟨_, rfl⟩
  | @object fields _ ih =>
      cases fields with
      | nil => exact ⟨_, rfl⟩
      | cons first rest =>
          obtain ⟨head, headIs⟩ := ih first (by simp) (level + 1)
          have others : ∀ field ∈ rest,
              ∃ chars, writeValue layout (level + 1) field.2 = .ok chars :=
            fun field member => ih field (by simp [member]) (level + 1)
          obtain ⟨tail, tailIs⟩ := writeFields_ok others
          rw [writeValue, headIs, tailIs]
          exact ⟨_, rfl⟩

end

end Json

namespace Stylesheet

/-- Rules without infinite, undefined and too long numbers have a text, however they are
indented. -/
theorem toJson_ok {nodes : List Value}
    (each : ∀ node ∈ nodes, node.MadeOf fun number => number.IsFinite ∧ number.IsShort)
    {room : Nat} {indent : Value} {step : Option (List Char)}
    (indented : Json.indentOf room indent = .ok step) :
    ∃ text, toJson room (.list nodes) indent = .ok text := by
  obtain ⟨chars, written⟩ := @Json.writeValue_ok ⟨false, step⟩ _ (Value.MadeOf.list each) 0
  have text : (Json.indentOf room indent >>= fun step => Json.write ⟨false, step⟩ (.list nodes)) =
      .ok (String.ofList chars) := by
    rw [indented]
    change (Json.writeValue ⟨false, step⟩ 0 (.list nodes)).map String.ofList = _
    rw [written]
    rfl
  exact ⟨String.ofList chars, by simp only [toJson, Value.elements?, text]⟩

end Stylesheet

end CriticalCss
