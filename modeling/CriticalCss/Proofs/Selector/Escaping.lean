import CriticalCss.Criticality
import CriticalCss.Document.Snapshot
import CriticalCss.Proofs.Pruning.Inquiry
import CriticalCss.Proofs.Selector.Reduction

/-!
# Escaped and quoted colons

A colon that is escaped, or that stands in the quoted value of an attribute, does not begin a
pseudo selector.  Reduction does not know that.  It leaves a selector whose colons are all of that
kind as it is exactly if behind none of them there is text that is spelled like the name of a
preserved pseudo selector or like that of a vendor; otherwise it cuts a piece out of a name or a
value, and other elements are looked up than the selector selects.
-/

namespace CriticalCss.Selector

/-! ## Colons that begin no pseudo selector -/

/-- Where in a selector a character stands. -/
inductive Place where
  | bare
  | brackets
  | quoted (mark : Char)
  /-- Behind a backslash. -/
  | escaped (within : Place)
  deriving DecidableEq

/-- The place behind a character; none if the character is a colon that begins a pseudo selector. -/
def Place.after : Place → Char → Option Place
  | escaped within, _ => some within
  | quoted mark, char =>
    if char = '\\' then some (escaped (quoted mark))
    else if char = mark then some brackets
    else some (quoted mark)
  | bare, char =>
    if char = '\\' then some (escaped bare)
    else if char = ':' then none
    else if char = '[' then some brackets
    else some bare
  | brackets, char =>
    if char = '\\' then some (escaped brackets)
    else if char = ':' then none
    else if char = ']' then some bare
    else if char = '\x22' ∨ char = '\x27' then some (quoted char)
    else some brackets

/-- Every colon is escaped or stands in the quoted value of an attribute. -/
def HidesColons (text : List Char) : Prop := text.foldlM Place.after .bare = some .bare

instance (text : List Char) : Decidable (HidesColons text) :=
  inferInstanceAs (Decidable (text.foldlM Place.after .bare = some .bare))

/-- A colon is hidden only behind a backslash or a bracket. -/
theorem HidesColons.mem {text : List Char} (hidden : HidesColons text) (hasColon : ':' ∈ text) :
    '\\' ∈ text ∨ '[' ∈ text := by
  unfold HidesColons at hidden
  induction text with
  | nil => cases hasColon
  | cons char rest ih =>
      by_cases backslash : char = '\\'
      · exact .inl (by simp [backslash])
      by_cases bracket : char = '['
      · exact .inr (by simp [bracket])
      by_cases isColon : char = ':'
      · subst isColon
        cases hidden
      · rw [List.foldlM_cons] at hidden
        simp only [Place.after, if_neg backslash, if_neg bracket, if_neg isColon] at hidden
        have behind : ':' ∈ rest := (List.mem_cons.mp hasColon).resolve_left (Ne.symm isColon)
        exact (ih hidden behind).imp (List.mem_cons_of_mem char) (List.mem_cons_of_mem char)

/-- A selector whose colons begin no pseudo selector does not consist of pseudo selectors. -/
theorem reduce_ne_none_of_hidesColons {selector : String}
    (hidden : HidesColons selector.toList) : reduce selector ≠ none := by
  intro none
  obtain ⟨hasColon, each, -⟩ := of_reduce_eq_none none
  rcases hidden.mem hasColon with member | member
  · have excluded := each '\\' member
    revert excluded
    decide
  · have excluded := each '[' member
    revert excluded
    decide

/-! ## What is left as it is -/

/-- No part of a text is spelled like a preserved pseudo selector, or like one of a vendor. -/
structure SpellsNone (text : List Char) : Prop where
  preserved : ∀ name ∈ preservedNames, ¬(':' :: name <:+: text)
  vendors : ¬[':', '-'] <:+: text

theorem SpellsNone.of_not_mem {text : List Char} (noColon : ':' ∉ text) : SpellsNone text where
  preserved _ _ inside := noColon (inside.subset (by simp))
  vendors inside := noColon (inside.subset (by simp))

/-- Deletion leaves a text as it is exactly if nothing is found anywhere in it. -/
theorem delete_eq_self_iff {matchLength : List Char → Nat} {isFactor : List Char → Prop}
    (finds : Finds matchLength isFactor) {text : List Char} :
    delete matchLength text = text ↔
      ∀ suffix, suffix ≠ [] → suffix <:+ text → matchLength suffix = 0 := by
  constructor
  · intro same
    induction text with
    | nil =>
        intro suffix nonempty isSuffix
        exact absurd (List.suffix_nil.mp isSuffix) nonempty
    | cons char rest ih =>
        intro suffix nonempty isSuffix
        rcases finds (char :: rest) with nothing | ⟨found, behind, split, foundSome, -, length⟩
        · rw [delete_cons_of_zero nothing, List.cons.injEq] at same
          rcases List.suffix_cons_iff.mp isSuffix with rfl | further
          · exact nothing
          · exact ih same.2 suffix nonempty further
        · -- a find would make the text shorter
          rw [split] at same length
          rw [delete_append foundSome length] at same
          have shorter := (finds.deletes behind).sublist.length_le
          have positive := List.length_pos_iff.mpr foundSome
          rw [same, List.length_append] at shorter
          omega
  · intro nothing
    have nowhere (suffix : List Char) (nonempty : suffix ≠ []) (isSuffix : suffix <:+ text) :
        matchLength (suffix ++ []) = 0 := by
      rw [List.append_nil]
      exact nothing suffix nonempty isSuffix
    simpa using delete_append_of_zero nowhere

/-- The preserved pseudo selectors are deleted from a text unless it spells none. -/
theorem delete_preserved_eq_self_iff {text : List Char} :
    delete preservedLength text = text ↔ ∀ name ∈ preservedNames, ¬(':' :: name <:+: text) := by
  rw [delete_eq_self_iff preservedLength_finds]
  constructor
  · intro nothing name known inside
    obtain ⟨suffix, begins, isSuffix⟩ := List.infix_iff_prefix_suffix.mp inside
    have nonempty : suffix ≠ [] := by
      rintro rfl
      cases List.prefix_nil.mp begins
    have none := preservedLength_eq_zero_iff.mp (nothing suffix nonempty isSuffix)
    exact none (':' :: name) ⟨false, name, known, rfl⟩ begins
  · intro unspelled suffix _ isSuffix
    refine preservedLength_eq_zero_iff.mpr ?_
    rintro found ⟨doubled, name, known, rfl⟩ begins
    refine unspelled name known (List.IsInfix.trans ?_ isSuffix.isInfix)
    have inside : ':' :: name <:+: colons doubled ++ name := by
      cases doubled
      · exact List.infix_rfl
      · exact (List.suffix_cons ':' (':' :: name)).isInfix
    exact inside.trans begins.isInfix

/-- The pseudo selectors of vendors are deleted from a text unless it spells none. -/
theorem delete_vendors_eq_self_iff {text : List Char} :
    delete vendorLength text = text ↔ ¬[':', '-'] <:+: text := by
  constructor
  · intro same
    rw [← same]
    exact not_infix_delete text
  · intro unspelled
    refine (delete_eq_self_iff vendorLength_finds).mpr fun suffix _ isSuffix => ?_
    rcases vendorLength_cases suffix with ⟨nothing, -⟩ | ⟨doubled, name, rest, rfl, -, -, -⟩
    · exact nothing
    · have inside : [':', '-'] <:+: (colons doubled ++ '-' :: name) ++ rest := by
        cases doubled
        · exact ⟨[], name ++ rest, rfl⟩
        · exact ⟨[':'], name ++ rest, rfl⟩
      exact absurd (inside.trans isSuffix.isInfix) unspelled

/-- A selector that is not passed over is reduced to itself exactly if it spells no pseudo selector
that is deleted. -/
theorem reduce_eq_self_iff {selector : String} (notPassed : reduce selector ≠ none) :
    reduce selector = some selector ↔ SpellsNone selector.toList := by
  by_cases hasColon : ':' ∈ selector.toList
  · rw [reduce_of_mem hasColon] at notPassed ⊢
    split at notPassed
    · exact absurd rfl notPassed
    next matchable =>
      rw [if_neg matchable, Option.some.injEq]
      constructor
      · intro same
        have twice : delete vendorLength (delete preservedLength selector.toList) =
            selector.toList := by
          simpa using congrArg String.toList same
        have first := (preservedLength_finds.deletes selector.toList).sublist
        have second := (vendorLength_finds.deletes (delete preservedLength selector.toList)).sublist
        -- neither round can have made the text shorter
        have once : delete preservedLength selector.toList = selector.toList := by
          refine first.eq_of_length_le ?_
          rw [twice] at second
          exact second.length_le
        rw [once] at twice
        exact ⟨delete_preserved_eq_self_iff.mp once, delete_vendors_eq_self_iff.mp twice⟩
      · intro spells
        rw [delete_preserved_eq_self_iff.mpr spells.preserved,
          delete_vendors_eq_self_iff.mpr spells.vendors, String.ofList_toList]
  · exact ⟨fun _ => .of_not_mem hasColon, fun _ => reduce_of_not_mem hasColon⟩

/-! ## Selectors without pseudo selectors -/

/-- A selector whose colons begin no pseudo selector is always looked up by some reduction, and by
itself exactly if no part of it is spelled like a pseudo selector that is deleted. -/
theorem looked_up_by_itself_iff {selector : String} (hidden : HidesColons selector.toList) :
    reduce selector ≠ none ∧
      (reduce selector = some selector ↔ SpellsNone selector.toList) ∧
      ∀ (ε : Type) (options : Options), ¬options.Settle selector →
        ((∃ next, (Pass.isCriticalText options selector : Pass ε Bool) = .query selector next) ↔
          SpellsNone selector.toList) := by
  have notPassed := reduce_ne_none_of_hidesColons hidden
  refine ⟨notPassed, reduce_eq_self_iff notPassed, fun ε options unsettled => ?_⟩
  rw [← reduce_eq_self_iff notPassed]
  obtain ⟨reduced, reduction⟩ := Option.ne_none_iff_exists'.mp notPassed
  obtain ⟨next, asks, -⟩ := Pass.isCriticalText_of_unsettled (ε := ε) unsettled reduction
  rw [asks, reduction]
  constructor
  · rintro ⟨other, same⟩
    cases same
    rfl
  · intro same
    exact ⟨next, by rw [Option.some.inj same]⟩

theorem responsive_class_looked_up :
    HidesColons ".md\\:flex[title=\"a:hover\"]".toList ∧
      SpellsNone ".md\\:flex[title=\"a:hover\"]".toList ∧
      reduce ".md\\:flex[title=\"a:hover\"]" = some ".md\\:flex[title=\"a:hover\"]" := by
  have hidden : HidesColons ".md\\:flex[title=\"a:hover\"]".toList := by decide +kernel
  have spells : SpellsNone ".md\\:flex[title=\"a:hover\"]".toList :=
    ⟨by decide +kernel, by decide +kernel⟩
  exact ⟨hidden, spells, (looked_up_by_itself_iff hidden).2.1.mpr spells⟩

/-- A page with an element of a class whose name has an escaped colon and a hyphen. -/
def utilityPage : Snapshot where
  selected := [(".md\\:-mt-2", [⟨.ok (.ofInt 50), .ok (.text "static")⟩])]
  invalid := []
  failing := []

/-- A hidden colon does not protect what is behind it: the name of a class is cut, the rest of it is
looked up, and the element of the class is not found though it shows on the first screen. -/
theorem hidden_colon_is_deleted :
    HidesColons ".md\\:-mt-2".toList ∧
      reduce ".md\\:-mt-2" = some ".md\\2" ∧
      (∃ next, (Pass.isCriticalText Options.plain ".md\\:-mt-2" : Pass Located Bool) =
        .query ".md\\2" next) ∧
      (utilityPage.document.query ".md\\:-mt-2").toOption.map List.length = some 1 ∧
      (utilityPage.document.perform
        (Pass.isCriticalText Options.plain ".md\\:-mt-2")).outcome.toOption = some false ∧
      ¬∀ selector, HidesColons selector.toList → reduce selector = some selector := by
  have hidden : HidesColons ".md\\:-mt-2".toList := by decide +kernel
  have reduction : reduce ".md\\:-mt-2" = some ".md\\2" := by decide +kernel
  have unsettled : ¬Options.plain.Settle ".md\\:-mt-2" := by
    rintro (kept | atRule | none)
    · revert kept
      decide +kernel
    · revert atRule
      decide +kernel
    · rw [reduction] at none
      cases none
  obtain ⟨next, asks, -⟩ := Pass.isCriticalText_of_unsettled (ε := Located) unsettled reduction
  refine ⟨hidden, reduction, ⟨next, asks⟩, by decide +kernel, by decide +kernel, fun same => ?_⟩
  have unchanged := same _ hidden
  rw [reduction] at unchanged
  revert unchanged
  decide +kernel

end CriticalCss.Selector
