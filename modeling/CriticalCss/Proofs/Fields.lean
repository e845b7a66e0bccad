import CriticalCss.Value

/-!
# Objects under a change of one key

Setting the value of a key that an object has leaves every key where it is and every
other value as it is.  The lists that nodes keep under their keys are read by
`Fields.listAt`, which takes an absent key for an empty list.
-/

namespace CriticalCss.Fields

variable {fields before after : Fields} {key : String} {value : Value}

/-- One object becomes another by having the value of a key replaced where it stands. -/
def Replaces (key : String) (value : Value) (before after : Fields) : Prop :=
  ∃ front held back, before = front ++ (key, held) :: back ∧
    after = front ++ (key, value) :: back ∧ ∀ field ∈ front, field.1 ≠ key

/-- The list under a key, empty if there is none. -/
def listAt (fields : Fields) (key : String) : List Value :=
  match fields.get? key with
  | some (.list items) => items
  | _ => []

/-- A key is absent, or its value is a list. -/
def HoldsList (fields : Fields) (key : String) : Prop :=
  ∀ value, fields.get? key = some value → value = .list (fields.listAt key)

theorem get?_cons (name : String) (held : Value) (rest : Fields) (key : String) :
    get? ((name, held) :: rest) key = if name = key then some held else rest.get? key := by
  simp only [get?, List.lookup_cons]
  by_cases equal : name = key
  · simp [equal]
  · have different : (key == name) = false := by simp [Ne.symm equal]
    simp [equal, different]

theorem listAt_of_get? {items : List Value} (found : fields.get? key = some (.list items)) :
    fields.listAt key = items := by
  simp [listAt, found]

theorem sizeOf_lt_of_get? {value : Value} (found : fields.get? key = some value) :
    sizeOf value < sizeOf fields := by
  induction fields with
  | nil => simp [get?] at found
  | cons field rest ih =>
      obtain ⟨name, held⟩ := field
      rw [get?_cons] at found
      split at found
      · cases found
        simp only [List.cons.sizeOf_spec, Prod.mk.sizeOf_spec]
        omega
      · have smaller := ih found
        simp only [List.cons.sizeOf_spec]
        omega

/-- A list with members is held under its key. -/
theorem isSome_of_listAt_ne_nil (nonempty : fields.listAt key ≠ []) :
    (fields.get? key).isSome := by
  unfold listAt at nonempty
  split at nonempty
  next found => simp [found]
  next => exact absurd rfl nonempty

/-- Setting a key that is there replaces its value. -/
theorem put_replaces (present : (fields.get? key).isSome) (value : Value) :
    Replaces key value fields (fields.put key value) := by
  induction fields with
  | nil => simp [get?] at present
  | cons field rest ih =>
      obtain ⟨name, held⟩ := field
      by_cases equal : name = key
      · subst equal
        exact ⟨[], held, rest, rfl, by simp [put], by simp⟩
      · have presentBelow : (get? rest key).isSome := by
          simpa [get?_cons, equal] using present
        obtain ⟨front, replaced, back, rfl, after, absent⟩ := ih presentBelow
        refine ⟨(name, held) :: front, replaced, back, rfl, ?_, ?_⟩
        · simp [put, equal, after]
        · rintro field (_ | ⟨_, inFront⟩)
          · exact equal
          · exact absent field inFront

/-- Of two values that are set under one key the second stays. -/
theorem put_put (first second : Value) :
    (fields.put key first).put key second = fields.put key second := by
  induction fields with
  | nil => simp [put]
  | cons field rest ih =>
      obtain ⟨name, held⟩ := field
      by_cases here : name = key
      · simp [put, here]
      · simp [put, here, ih]

namespace Replaces

/-- There is one way to replace a value. -/
theorem eq_put (replaces : Replaces key value before after) : after = before.put key value := by
  obtain ⟨front, held, back, rfl, rfl, absent⟩ := replaces
  induction front with
  | nil => simp [put]
  | cons field rest ih =>
      have different : field.1 ≠ key := absent field (by simp)
      simp only [List.cons_append, put, different, ↓reduceIte, List.cons.injEq, true_and]
      exact ih fun other member => absent other (by simp [member])

end Replaces

/-! ## What all values have in common -/

section

variable {holds : Value → Prop}

/-- Setting a key puts nothing else into an object than the new value. -/
theorem forall_put (each : ∀ field ∈ fields, holds field.2) (new : holds value) :
    ∀ field ∈ fields.put key value, holds field.2 := by
  induction fields with
  | nil =>
      intro field member
      cases List.mem_singleton.mp member
      exact new
  | cons head rest ih =>
      obtain ⟨name, held⟩ := head
      have eachOfRest : ∀ field ∈ rest, holds field.2 := fun field member =>
        each field (by simp [member])
      intro field member
      simp only [put] at member
      split at member
      · rcases List.mem_cons.mp member with rfl | inRest
        · exact new
        · exact eachOfRest field inRest
      · rcases List.mem_cons.mp member with rfl | inRest
        · exact each (name, held) (by simp)
        · exact ih eachOfRest field inRest

theorem forall_ofPairs {pairs : List (String × Value)} (each : ∀ pair ∈ pairs, holds pair.2) :
    ∀ field ∈ ofPairs pairs, holds field.2 := by
  have grown (start : Fields) (eachOfStart : ∀ field ∈ start, holds field.2) :
      ∀ field ∈ pairs.foldl (fun fields pair => fields.put pair.1 pair.2) start,
        holds field.2 := by
    induction pairs generalizing start with
    | nil => exact eachOfStart
    | cons pair rest ih =>
        have eachOfNext : ∀ field ∈ start.put pair.1 pair.2, holds field.2 :=
          forall_put eachOfStart (each pair (by simp))
        exact ih (fun other member => each other (by simp [member])) _ eachOfNext
  exact grown [] (by simp)

end

/-! ## Keys that occur once -/

/-- No key occurs twice. -/
def HasUniqueKeys (fields : Fields) : Prop := (fields.map Prod.fst).Nodup

/-- A key that is not there is set at the end. -/
theorem put_of_absent (absent : key ∉ fields.map Prod.fst) :
    fields.put key value = fields ++ [(key, value)] := by
  induction fields with
  | nil => rfl
  | cons field rest ih =>
      obtain ⟨name, held⟩ := field
      simp only [List.map_cons, List.mem_cons, not_or] at absent
      rw [put, if_neg (Ne.symm absent.1), ih absent.2]
      rfl

/-- A key that is there is set in its place. -/
theorem keys_put_of_present (present : key ∈ fields.map Prod.fst) :
    (fields.put key value).map Prod.fst = fields.map Prod.fst := by
  induction fields with
  | nil => cases present
  | cons field rest ih =>
      obtain ⟨name, held⟩ := field
      rw [put]
      split
      · rfl
      next different =>
        have below : key ∈ rest.map Prod.fst := by
          rcases List.mem_cons.mp present with same | below
          · exact absurd same.symm different
          · exact below
        rw [List.map_cons, ih below, List.map_cons]

namespace HasUniqueKeys

theorem put (unique : fields.HasUniqueKeys) (key : String) (value : Value) :
    (fields.put key value).HasUniqueKeys := by
  by_cases present : key ∈ fields.map Prod.fst
  · rw [HasUniqueKeys, keys_put_of_present present]
    exact unique
  · rw [HasUniqueKeys, put_of_absent present, List.map_append, List.nodup_append]
    refine ⟨unique, by simp, ?_⟩
    intro other isKey new isNew same
    cases List.mem_singleton.mp isNew
    rw [same] at isKey
    exact present isKey

/-- The object of a sequence of pairs has every key once. -/
theorem ofPairs (pairs : List (String × Value)) : (Fields.ofPairs pairs).HasUniqueKeys := by
  have grown (start : Fields) (unique : start.HasUniqueKeys) :
      (pairs.foldl (fun fields pair => fields.put pair.1 pair.2) start).HasUniqueKeys := by
    induction pairs generalizing start with
    | nil => exact unique
    | cons pair rest ih => exact ih _ (unique.put pair.1 pair.2)
  exact grown [] List.nodup_nil

/-- Pairs with different keys make up an object as they are. -/
theorem ofPairs_eq (unique : fields.HasUniqueKeys) : Fields.ofPairs fields = fields := by
  have grown (start rest : Fields) (together : HasUniqueKeys (start ++ rest)) :
      rest.foldl (fun fields pair => fields.put pair.1 pair.2) start = start ++ rest := by
    induction rest generalizing start with
    | nil => exact (List.append_nil start).symm
    | cons pair rest ih =>
        have absent : pair.1 ∉ start.map Prod.fst := by
          intro present
          rw [HasUniqueKeys, List.map_append, List.nodup_append] at together
          exact together.2.2 _ present _ (by simp) rfl
        rw [List.foldl_cons, put_of_absent absent, ih, List.append_assoc]
        · rfl
        · rw [List.append_assoc]
          exact together
  exact grown [] fields unique

end HasUniqueKeys

end CriticalCss.Fields
