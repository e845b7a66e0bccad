import CriticalCss.Proofs.Selector.Pseudos

/-!
# What reduction keeps

Whatever the text of a selector is, reduction only deletes pseudo selectors that are preserved
and, in a second round, those of vendors; and though what was apart moves together, none of the
latter is left.  A selector is passed over as one that cannot be looked up only if each name in
it stands behind a colon: a name with no colon in front is never deleted.
-/

namespace CriticalCss.Selector

/-! ## Names without a colon in front -/

/-- Whether a character covers a name behind it: a colon does, and so does the name itself. -/
def covers (char : Char) : Bool := char == ':' || isNameChar char

/-- Whether a name stands in a text without a colon in front of it; the text itself may be covered
by what is in front of it. -/
def hasBareName : (covered : Bool) → List Char → Bool
  | _, [] => false
  | covered, char :: rest => !covered && isNameChar char || hasBareName (covers char) rest

/-- A name that stands bare in a text that is covered stands bare all the more if it is not. -/
theorem hasBareName_relax {covered : Bool} {text : List Char}
    (bare : hasBareName true text = true) : hasBareName covered text = true := by
  cases text with
  | nil => cases bare
  | cons char rest =>
      have further : hasBareName (covers char) rest = true := bare
      simp [hasBareName, further]

/-- A character of a name is bare if nothing in front covers it. -/
theorem hasBareName_of_not_covers {before rest : List Char} {char : Char} {covered : Bool}
    (isName : isNameChar char = true) (front : before = [] → covered = false)
    (last : ∀ last ∈ before.getLast?, covers last = false) :
    hasBareName covered (before ++ char :: rest) = true := by
  induction before generalizing covered with
  | nil => simp [hasBareName, front rfl, isName]
  | cons first others ih =>
      have further : hasBareName (covers first) (others ++ char :: rest) = true := by
        refine ih (fun none => ?_) fun final isLast => ?_
        · subst none
          exact last first rfl
        · cases others with
          | nil => cases isLast
          | cons second more => exact last final (by rwa [List.getLast?_cons_cons])
      simp [hasBareName, further]

/-- A text with a bare name is not blank. -/
theorem not_all_blank_of_hasBareName {covered : Bool} {text : List Char}
    (bare : hasBareName covered text = true) : text.all Text.isBlank = false := by
  induction text generalizing covered with
  | nil => cases bare
  | cons char rest ih =>
      simp only [hasBareName, Bool.or_eq_true, Bool.and_eq_true] at bare
      rcases bare with ⟨-, isName⟩ | further
      · simp [isBlank_of_isNameChar isName]
      · simp [ih further]

/-- Colons and names leave what follows them covered. -/
theorem hasBareName_append {front rest : List Char} (each : ∀ char ∈ front, covers char = true) :
    hasBareName true (front ++ rest) = hasBareName true rest := by
  induction front with
  | nil => rfl
  | cons char others ih =>
      rw [List.cons_append, hasBareName, each char (by simp),
        ih fun other member => each other (by simp [member])]
      rfl

/-! ## Deleting pseudo selectors -/

theorem covers_of_isPseudo {found : List Char} (isPseudo : IsPseudo found) :
    ∀ char ∈ found, covers char = true := by
  obtain ⟨doubled, name, each, rfl⟩ := isPseudo
  intro char member
  rcases List.mem_append.mp member with inColons | inName
  · have isColon : char = ':' := by cases doubled <;> simpa [colons] using inColons
    rw [isColon]
    rfl
  · simp [covers, each char inName]

theorem isPseudo_of_isPreserved {found : List Char} (isPreserved : IsPreserved found) :
    IsPseudo found := by
  obtain ⟨doubled, name, known, rfl⟩ := isPreserved
  exact ⟨doubled, name, (name_of_preserved known).2.1, rfl⟩

/-- Pseudo selectors in front of a text cover it, and have no bare names. -/
theorem hasBareName_pseudo_append {found rest : List Char} (isPseudo : IsPseudo found)
    (covered : Bool) : hasBareName covered (found ++ rest) = hasBareName true rest := by
  have inside := covers_of_isPseudo isPseudo
  obtain ⟨more, rfl⟩ : ∃ more, found = ':' :: more := by
    obtain ⟨doubled, name, -, rfl⟩ := isPseudo
    cases doubled
    · exact ⟨name, rfl⟩
    · exact ⟨':' :: name, rfl⟩
  have behind : hasBareName true (more ++ rest) = hasBareName true rest :=
    hasBareName_append fun char member => inside char (List.mem_cons_of_mem _ member)
  cases covered <;> exact behind

/-- Deleting pseudo selectors leaves a bare name bare. -/
theorem Deletes.hasBareName {isFactor : List Char → Prop} {text left : List Char} {covered : Bool}
    (deletes : Deletes isFactor text left)
    (pseudos : ∀ found, isFactor found → IsPseudo found)
    (bare : hasBareName covered text = true) : hasBareName covered left = true := by
  induction deletes generalizing covered with
  | nil => exact bare
  | keep char _ ih =>
      simp only [Selector.hasBareName, Bool.or_eq_true] at bare ⊢
      exact bare.imp_right ih
  | drop factor _ ih =>
      rw [hasBareName_pseudo_append (pseudos _ factor)] at bare
      exact hasBareName_relax (ih bare)

/-- A character that is deleted is a colon or belongs to a name. -/
theorem Deletes.mem_or_covers {isFactor : List Char → Prop} {text left : List Char} {char : Char}
    (deletes : Deletes isFactor text left)
    (pseudos : ∀ found, isFactor found → IsPseudo found) (member : char ∈ text) :
    char ∈ left ∨ covers char = true := by
  induction deletes with
  | nil => cases member
  | keep first _ ih =>
      rcases List.mem_cons.mp member with rfl | behind
      · exact .inl (by simp)
      · exact (ih behind).imp_left (List.mem_cons_of_mem first)
  | drop factor _ ih =>
      rcases List.mem_append.mp member with inFound | behind
      · exact .inr (covers_of_isPseudo (pseudos _ factor) char inFound)
      · exact ih behind

/-! ## Nothing is created by joining -/

/-- Where a hyphen is in front after the deletion, it was in front before: behind a find there is
none. -/
theorem head?_of_head?_delete {text : List Char}
    (hyphen : (delete vendorLength text).head? = some '-') : text.head? = some '-' := by
  induction text using delete_induction vendorLength_finds with
  | nil => cases hyphen
  | keep char rest _ _ => exact hyphen
  | drop found rest nonempty _ isFound ih =>
      have first : rest.head? = some '-' := ih hyphen
      have stopped : isVendorChar '-' = false := vendorLength_stops nonempty isFound '-' first
      cases stopped

/-- No pseudo selector of a vendor is left, not even one made of parts that were apart. -/
theorem not_infix_delete (text : List Char) : ¬[':', '-'] <:+: delete vendorLength text := by
  induction text using delete_induction vendorLength_finds with
  | nil => simp
  | keep char rest nothing ih =>
      intro inside
      rcases List.infix_cons_iff.mp inside with begins | behind
      · obtain ⟨rfl, hyphenFirst⟩ := List.cons_prefix_cons.mp begins
        obtain ⟨more, left⟩ := hyphenFirst
        have hyphen : rest.head? = some '-' := head?_of_head?_delete (by rw [← left]; rfl)
        obtain ⟨others, rfl⟩ : ∃ others, rest = '-' :: others := by
          cases rest with
          | nil => cases hyphen
          | cons first others => exact ⟨others, by rw [Option.some.inj hyphen]⟩
        exact vendorLength_ne_zero ⟨others, rfl⟩ nothing
      · exact ih behind
  | drop found rest _ _ _ ih => exact ih

/-! ## Soundness of reduction -/

/-- Every maximal run of characters of names stands immediately behind a colon. -/
def NamesFollowColons (text : List Char) : Prop :=
  ∀ before run after, text = before ++ run ++ after → run ≠ [] →
    (∀ char ∈ run, isNameChar char = true) →
    (∀ char ∈ before.getLast?, isNameChar char = false) → Stops isNameChar after →
    before.getLast? = some ':'

/-- A text without bare names has colons in front of all its names. -/
theorem namesFollowColons_of_not_hasBareName {text : List Char}
    (none : hasBareName false text = false) : NamesFollowColons text := by
  rintro before run after rfl nonempty each starts -
  by_contra noColon
  cases run with
  | nil => exact nonempty rfl
  | cons char others =>
      have bare : hasBareName false (before ++ char :: (others ++ after)) = true := by
        refine hasBareName_of_not_covers (each char (by simp)) (fun _ => rfl) fun last isLast => ?_
        have other : last ≠ ':' := by
          rintro rfl
          exact noColon isLast
        simp [covers, other, starts last isLast]
      rw [List.append_assoc, List.cons_append, bare] at none
      cases none

/-- A selector is left without a reduction only if it has colons and consists of blanks, colons and
names, each of them with a colon in front. -/
theorem of_reduce_eq_none {selector : String} (none : reduce selector = none) :
    ':' ∈ selector.toList ∧
      (∀ char ∈ selector.toList,
        Text.isBlank char = true ∨ char = ':' ∨ isNameChar char = true) ∧
      NamesFollowColons selector.toList := by
  by_cases hasColon : ':' ∈ selector.toList
  · rw [reduce_of_mem hasColon] at none
    have blank : (delete pseudoLength (delete preservedLength selector.toList)).all
        Text.isBlank = true := by
      by_contra notBlank
      rw [if_neg notBlank] at none
      cases none
    have first := preservedLength_finds.deletes selector.toList
    have second := pseudoLength_finds.deletes (delete preservedLength selector.toList)
    have firstPseudos : ∀ found, IsPreserved found → IsPseudo found :=
      fun _ => isPseudo_of_isPreserved
    have secondPseudos : ∀ found, IsPseudo found → IsPseudo found := fun _ => id
    refine ⟨hasColon, fun char member => ?_, namesFollowColons_of_not_hasBareName ?_⟩
    · have covered : covers char = true → char = ':' ∨ isNameChar char = true := by
        simp [covers]
      rcases first.mem_or_covers firstPseudos member with kept | covers
      · rcases second.mem_or_covers secondPseudos kept with left | covers
        · exact .inl (List.all_eq_true.mp blank char left)
        · exact .inr (covered covers)
      · exact .inr (covered covers)
    · by_contra bare
      rw [Bool.not_eq_false] at bare
      have stillBare := second.hasBareName secondPseudos (first.hasBareName firstPseudos bare)
      rw [not_all_blank_of_hasBareName stillBare] at blank
      cases blank
  · rw [reduce_of_not_mem hasColon] at none
    cases none

/-- Reduction is sound on any text: a selector without colons stays as it is; one that is left
without a reduction consists of blanks, colons and names behind colons; and any other is reduced by
deleting preserved pseudo selectors, then those of vendors, none of which is left or created. -/
theorem reduce_sound (selector : String) :
    (':' ∉ selector.toList → reduce selector = some selector) ∧
      (reduce selector = none →
        ':' ∈ selector.toList ∧
        (∀ char ∈ selector.toList,
          Text.isBlank char = true ∨ char = ':' ∨ isNameChar char = true) ∧
        NamesFollowColons selector.toList) ∧
      ∀ reduced, reduce selector = some reduced → ':' ∈ selector.toList →
        ¬[':', '-'] <:+: reduced.toList ∧
        ∃ kept, Deletes IsPreserved selector.toList kept ∧
          Deletes IsVendors kept reduced.toList := by
  refine ⟨reduce_of_not_mem, of_reduce_eq_none, fun reduced isReduced hasColon => ?_⟩
  rw [reduce_of_mem hasColon] at isReduced
  split at isReduced
  · cases isReduced
  · cases isReduced
    rw [String.toList_ofList]
    refine ⟨not_infix_delete _, delete preservedLength selector.toList, ?_, ?_⟩
    · exact preservedLength_finds.deletes selector.toList
    · exact vendorLength_finds.deletes _

/-- A vendor's pseudo selector that the first round creates by joining goes in the second. -/
example : reduce "a:::before-x" = some "a" := by decide +kernel

end CriticalCss.Selector
