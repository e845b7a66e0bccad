import CriticalCss.Proofs.Extraction.Checks
import Mathlib.Data.List.Forall2

/-!
# Which entries options hold

Options hold the entries that the caller's items stand for, in the caller's order.  The universal
selector is always among them: if the caller does not name it, it is put in front.  Where the caller
names it, it stays in its place, so it is not the first entry if the caller names another one before
it.
-/

namespace CriticalCss

/-- A sequence of items succeeds with the results of the items, in the same order. -/
theorem mapM_eq_ok_iff {ε α β : Type} {act : α → Except ε β} {items : List α} {results : List β} :
    items.mapM act = .ok results ↔
      List.Forall₂ (fun item result => act item = .ok result) items results := by
  constructor
  · intro succeeds
    induction items generalizing results with
    | nil =>
        cases succeeds
        exact .nil
    | cons item others ih =>
        rw [List.mapM_cons] at succeeds
        obtain ⟨result, first, succeeds⟩ := exists_ok_of_bind succeeds
        obtain ⟨rest, followed, succeeds⟩ := exists_ok_of_bind succeeds
        cases succeeds
        exact .cons first (ih followed)
  · intro succeed
    induction succeed with
    | nil => rfl
    | cons first _ ih =>
        rw [List.mapM_cons, first]
        change (List.mapM act _ >>= _) = _
        rw [ih]
        rfl

theorem ForceInclude.isUniversal_iff {entry : ForceInclude} :
    entry.isUniversal = true ↔ entry = .universal := by
  cases entry with
  | literal selector => simp [isUniversal, universal]
  | pattern regex => simp [isUniversal, universal]

theorem ForceInclude.literal_ne_universal {selector : String} (other : selector ≠ "*") :
    literal selector ≠ universal := by
  intro same
  exact other (literal.inj same)

theorem ForceInclude.ofPattern_source (regex : Regex) :
    ofPattern regex.source = .ok (.pattern regex) := by
  obtain ⟨source, compiled, read⟩ := regex
  rw [ofPattern]
  split
  next other parsed =>
    cases read.symm.trans parsed
    rfl
  next error failed => cases read.symm.trans failed

namespace Options

/-- An item stands for an entry: an entry for itself, a text for a selector, and an object for the
selector that it holds, or for the pattern if its type says so. -/
inductive StandsFor : Value → ForceInclude → Prop where
  | entry (entry : ForceInclude) : StandsFor (.entry entry) entry
  | text (selector : String) : StandsFor (.text selector) (.literal selector)
  | selector {fields : Fields} {selector : String} :
      fields.get? "value" = some (.text selector) →
      fields.get? "type" ≠ some (.text "RegExp") → StandsFor (.object fields) (.literal selector)
  | pattern {item : Value} {regex : Regex} :
      HoldsPattern item regex.source → StandsFor item (.pattern regex)

variable {item forceInclude : Value} {entry : ForceInclude} {items : List Value}
  {entries : List ForceInclude} {height delay : Number} {fields : Fields}

/-! ## Reading items -/

theorem standsFor_of_entryOf (read : entryOf item = .ok entry) : StandsFor item entry := by
  rw [entryOf.eq_def] at read
  split at read
  next =>
    cases read
    exact .entry entry
  next selector =>
    cases read
    exact .text selector
  next fields =>
    split at read
    · cases read
    next selector isText =>
      obtain ⟨value, found, isText⟩ := Option.bind_eq_some_iff.mp isText
      rw [eq_text_of_text? isText] at found
      split at read
      next isPattern =>
        have typed := any_isText_iff.mp isPattern
        split at read
        next made =>
          cases read
          rw [ForceInclude.ofPattern] at made
          split at made
          · cases made
            exact .pattern (.object found typed)
          · cases made
        next => cases read
      next noPattern =>
        cases read
        apply StandsFor.selector found
        intro typed
        exact noPattern (any_isText_iff.mpr typed)
  next => cases read

theorem entryOf_of_standsFor (stands : StandsFor item entry) : entryOf item = .ok entry := by
  cases stands with
  | entry => rfl
  | text => rfl
  | @selector fields selector found untyped =>
      have noPattern : (fields.get? "type").any (·.isText "RegExp") = false := by
        rw [← Bool.not_eq_true, any_isText_iff]
        exact untyped
      simp [entryOf, found, noPattern, Value.text?]
  | @pattern _ regex holds =>
      cases holds with
      | object found typed =>
          simp [entryOf, found, typed, Value.text?, Value.isText, ForceInclude.ofPattern_source]

/-- An item is read as an entry exactly if it stands for it. -/
theorem entryOf_eq_ok_iff : entryOf item = .ok entry ↔ StandsFor item entry :=
  ⟨standsFor_of_entryOf, entryOf_of_standsFor⟩

/-- A list is read as the entries that its items stand for, in the same order. -/
theorem entriesOf_eq_ok_iff : entriesOf forceInclude = .ok entries ↔
    ∃ items, forceInclude.elements? = some items ∧ List.Forall₂ StandsFor items entries := by
  rw [entriesOf]
  constructor
  · intro read
    split at read
    · cases read
    next items listed =>
      rw [mapM_eq_ok_iff] at read
      simp only [entryOf_eq_ok_iff] at read
      exact ⟨items, listed, read⟩
  · intro lists
    obtain ⟨items, listed, stand⟩ := lists
    simp only [listed]
    rw [mapM_eq_ok_iff]
    simp only [entryOf_eq_ok_iff]
    exact stand

/-! ## The universal selector -/

theorem any_isUniversal_iff :
    entries.any ForceInclude.isUniversal = true ↔ .universal ∈ entries := by
  simp only [List.any_eq_true, ForceInclude.isUniversal_iff, exists_eq_right]

theorem withUniversal_of_mem (named : .universal ∈ entries) : withUniversal entries = entries := by
  rw [withUniversal, if_pos (any_isUniversal_iff.mpr named)]

theorem withUniversal_of_not_mem (unnamed : .universal ∉ entries) :
    withUniversal entries = .universal :: entries := by
  rw [withUniversal, if_neg]
  rw [any_isUniversal_iff]
  exact unnamed

/-- The universal selector is not the first entry exactly if it is named, but not first. -/
theorem head?_withUniversal_ne_iff :
    (withUniversal entries).head? ≠ some .universal ↔
      ∃ first rest, entries = first :: rest ∧ first ≠ .universal ∧ .universal ∈ rest := by
  constructor
  · intro notFirst
    by_cases named : .universal ∈ entries
    · rw [withUniversal_of_mem named] at notFirst
      cases entries with
      | nil => cases named
      | cons first rest =>
          have differs : first ≠ .universal := by
            intro same
            apply notFirst
            rw [List.head?_cons, same]
          exact ⟨first, rest, rfl, differs,
            (List.mem_cons.mp named).resolve_left (Ne.symm differs)⟩
    · rw [withUniversal_of_not_mem named] at notFirst
      exact absurd rfl notFirst
  · intro later
    obtain ⟨first, rest, rfl, differs, named⟩ := later
    rw [withUniversal_of_mem (List.mem_cons_of_mem first named), List.head?_cons]
    intro same
    exact differs (Option.some.inj same)

/-! ## Options -/

/-- Options with valid numbers are made from entries. -/
theorem build_of_entriesOf (read : entriesOf forceInclude = .ok entries)
    (positive : height.atMost (.whole 0) = false) (nonnegative : delay.less (.whole 0) = false) :
    ∃ options, build forceInclude (.number height) (.number delay) = .ok options ∧
      options.forceInclude = withUniversal entries := by
  refine ⟨⟨withUniversal entries, height, delay, any_isUniversal_withUniversal entries, positive,
    nonnegative⟩, ?_, rfl⟩
  simp [build, read, comparable, bind, Except.bind, pure, Except.pure, positive, nonnegative]

/-- All options are accepted: they can be made from their own parts. -/
theorem build_parts (options : Options) :
    build (.list (options.forceInclude.map .entry)) (.number options.viewportHeight)
      (.number options.settleDelay) = .ok options := by
  obtain ⟨entries, height, delay, universal, positive, nonnegative⟩ := options
  have stand : List.Forall₂ StandsFor (entries.map .entry) entries := by
    rw [List.forall₂_map_left_iff, List.forall₂_same]
    intro entry _
    exact .entry entry
  have read : entriesOf (.list (entries.map .entry)) = .ok entries :=
    entriesOf_eq_ok_iff.mpr ⟨_, rfl, stand⟩
  have kept := withUniversal_of_mem (any_isUniversal_iff.mp universal)
  simp [build, read, comparable, bind, Except.bind, pure, Except.pure, positive, nonnegative, kept]

/-- The universal selector is kept by all options. -/
theorem isForceIncluded_universal (options : Options) :
    options.isForceIncluded (.text "*") = .ok true := by
  have named := any_isUniversal_iff.mp options.has_universal
  have kept : options.keeps "*" = true :=
    List.any_eq_true.mpr ⟨.universal, named, rfl⟩
  rw [isForceIncluded, kept]

/-- Valid items make options that hold their entries in order and keep the universal selector.  It
is put in front if it is not named, and it is not the first entry exactly if it is named behind
another one. -/
theorem universal_slips_iff (listed : forceInclude.elements? = some items)
    (stand : List.Forall₂ StandsFor items entries)
    (positive : height.atMost (.whole 0) = false) (nonnegative : delay.less (.whole 0) = false) :
    ∃ options, build forceInclude (.number height) (.number delay) = .ok options ∧
      options.isForceIncluded (.text "*") = .ok true ∧
      (.universal ∉ entries → options.forceInclude = .universal :: entries) ∧
      (.universal ∈ entries → options.forceInclude = entries) ∧
      (options.forceInclude.head? ≠ some .universal ↔
        ∃ first rest, entries = first :: rest ∧ first ≠ .universal ∧ .universal ∈ rest) := by
  have read := entriesOf_eq_ok_iff.mpr ⟨items, listed, stand⟩
  obtain ⟨options, built, holds⟩ := build_of_entriesOf read positive nonnegative
  refine ⟨options, built, isForceIncluded_universal options, ?_, ?_, ?_⟩
  · intro unnamed
    rw [holds, withUniversal_of_not_mem unnamed]
  · intro named
    rw [holds, withUniversal_of_mem named]
  · rw [holds]
    exact head?_withUniversal_ne_iff

/-- The standard height is valid, and so is the standard delay. -/
theorem standard_isValid :
    (Number.whole 900).atMost (.whole 0) = false ∧ (Number.whole 100).less (.whole 0) = false := by
  decide +kernel

/-- Items of all kinds, with the universal selector behind the others. -/
def mixedItems : List Value :=
  [.text ".a", .object [("type", .text "RegExp"), ("value", .text "^b")],
    .entry (.literal ".c"), .object [("value", .text "*")]]

theorem mixedItems_slip : ∃ regex : Regex, regex.source = "^b" ∧
    List.Forall₂ StandsFor mixedItems
      [.literal ".a", .pattern regex, .literal ".c", .universal] ∧
    ∃ options, build (.list mixedItems) standardHeight standardDelay = .ok options ∧
      options.isForceIncluded (.text "*") = .ok true ∧
      options.forceInclude = [.literal ".a", .pattern regex, .literal ".c", .universal] ∧
      options.forceInclude.head? ≠ some .universal := by
  have reads : (match Pattern.parse "^b" with
      | .ok _ => true
      | .error _ => false) = true := by
    decide +kernel
  split at reads
  next compiled parsed =>
    let regex : Regex := ⟨"^b", compiled, parsed⟩
    have stand : List.Forall₂ StandsFor mixedItems
        [.literal ".a", .pattern regex, .literal ".c", .universal] := by
      apply List.Forall₂.cons (.text ".a")
      apply List.Forall₂.cons (.pattern (.object rfl rfl))
      apply List.Forall₂.cons (.entry (.literal ".c"))
      apply List.Forall₂.cons (.selector rfl nofun)
      exact .nil
    have listed : (Value.list mixedItems).elements? = some mixedItems := rfl
    obtain ⟨options, built, kept, -, holds, slips⟩ :=
      universal_slips_iff listed stand standard_isValid.1 standard_isValid.2
    refine ⟨regex, rfl, stand, options, built, kept, holds (by simp), ?_⟩
    exact slips.mpr ⟨.literal ".a", _, rfl, ForceInclude.literal_ne_universal (by decide), by simp⟩
  next => cases reads

/-- The universal selector is not always the first entry. -/
theorem later_universal_is_not_first :
    ¬∀ (forceInclude : Value) (items : List Value) (entries : List ForceInclude)
      (height delay : Number), forceInclude.elements? = some items →
      List.Forall₂ StandsFor items entries → height.atMost (.whole 0) = false →
      delay.less (.whole 0) = false →
      ∃ options, build forceInclude (.number height) (.number delay) = .ok options ∧
        options.forceInclude.head? = some .universal := by
  intro isFirst
  have stand : List.Forall₂ StandsFor [.text ".a", .text "*"] [.literal ".a", .universal] := by
    apply List.Forall₂.cons (.text ".a")
    exact .cons (.text "*") .nil
  obtain ⟨options, built, first⟩ := isFirst (.list [.text ".a", .text "*"]) _ _ (.whole 900)
    (.whole 100) rfl stand standard_isValid.1 standard_isValid.2
  have read : entriesOf (.list [.text ".a", .text "*"]) = .ok [.literal ".a", .universal] :=
    entriesOf_eq_ok_iff.mpr ⟨_, rfl, stand⟩
  obtain ⟨same, builtSame, holds⟩ :=
    build_of_entriesOf read standard_isValid.1 standard_isValid.2
  cases built.symm.trans builtSame
  rw [holds] at first
  have notFirst := head?_withUniversal_ne_iff.mpr
    ⟨.literal ".a", [.universal], rfl, ForceInclude.literal_ne_universal (by decide),
      List.mem_singleton.mpr rfl⟩
  exact notFirst first

end Options

end CriticalCss
