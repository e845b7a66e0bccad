import CriticalCss.Proofs.Selector.Deletion
import CriticalCss.Proofs.Text.Span
import CriticalCss.Text.Blank

/-!
# What is found in selectors

Three kinds of factors are found in selectors: preserved pseudo selectors, pseudo selectors of
vendors, and pseudo selectors in general.  Each is one colon or two with a name behind; the names
of the last two kinds reach as far as they can.
-/

namespace CriticalCss.Selector

/-- The colons in front of a name, two if they are doubled. -/
def colons : (doubled : Bool) → List Char
  | false => [':']
  | true => [':', ':']

/-- A preserved pseudo selector. -/
def IsPreserved (found : List Char) : Prop :=
  ∃ doubled, ∃ name ∈ preservedNames, found = colons doubled ++ name

/-- A pseudo selector, perhaps without a name. -/
def IsPseudo (found : List Char) : Prop :=
  ∃ doubled name, (∀ char ∈ name, isNameChar char = true) ∧ found = colons doubled ++ name

/-- A pseudo selector of a vendor. -/
def IsVendors (found : List Char) : Prop :=
  ∃ doubled name, (∀ char ∈ name, isVendorChar char = true) ∧ found = colons doubled ++ '-' :: name

/-- A text does not go on with a character of a class. -/
def Stops (isClass : Char → Bool) (rest : List Char) : Prop :=
  ∀ char ∈ rest.head?, isClass char = false

/-- Whatever is found begins with a colon. -/
def BeginsAtColon (matchLength : List Char → Nat) : Prop :=
  ∀ char, char ≠ ':' → ∀ rest, matchLength (char :: rest) = 0

/-- Text without colons stays. -/
theorem delete_append_of_not_mem {matchLength : List Char → Nat} {front : List Char}
    (atColon : BeginsAtColon matchLength) (noColon : ':' ∉ front) (rest : List Char) :
    delete matchLength (front ++ rest) = front ++ delete matchLength rest := by
  refine delete_append_of_zero fun suffix nonempty isSuffix => ?_
  cases suffix with
  | nil => exact absurd rfl nonempty
  | cons char others =>
      refine atColon char ?_ (others ++ rest)
      rintro rfl
      exact noColon (isSuffix.subset (by simp))

/-- A name stays with the colons in front of it if nothing is found before the name. -/
theorem delete_colons_append {matchLength : List Char → Nat} {name rest : List Char}
    (atColon : BeginsAtColon matchLength) (noColon : ':' ∉ name)
    (nothing : ∀ doubled, matchLength ((colons doubled ++ name) ++ rest) = 0) (doubled : Bool) :
    delete matchLength ((colons doubled ++ name) ++ rest) =
      (colons doubled ++ name) ++ delete matchLength rest := by
  have single : delete matchLength (':' :: (name ++ rest)) =
      ':' :: (name ++ delete matchLength rest) := by
    have nothingHere : matchLength (':' :: (name ++ rest)) = 0 := nothing false
    rw [delete_cons_of_zero nothingHere, delete_append_of_not_mem atColon noColon]
  cases doubled with
  | false => exact single
  | true =>
      have nothingHere : matchLength (':' :: ':' :: (name ++ rest)) = 0 := nothing true
      change delete matchLength (':' :: ':' :: (name ++ rest)) =
        ':' :: ':' :: (name ++ delete matchLength rest)
      rw [delete_cons_of_zero nothingHere, single]

/-! ## Characters -/

theorem isNameChar_of_isVendorChar {char : Char} (isVendor : isVendorChar char = true) :
    isNameChar char = true := by
  simp only [isVendorChar, Bool.or_eq_true] at isVendor
  rcases isVendor with isLower | isHyphen
  · have alphanumeric : char.isAlphanum = ((char.isUpper || char.isLower) || char.isDigit) := rfl
    simp [isNameChar, alphanumeric, isLower]
  · simp [isNameChar, isHyphen]

theorem ne_colon_of_isNameChar {char : Char} (isName : isNameChar char = true) : char ≠ ':' := by
  rintro rfl
  cases isName

/-- A character of a name is not blank. -/
theorem isBlank_of_isNameChar {char : Char} (isName : isNameChar char = true) :
    Text.isBlank char = false := by
  have ranges : isNameChar char =
      (decide (65 ≤ char.val ∧ char.val ≤ 90) || (97 ≤ char.val && char.val ≤ 122) ||
        (48 ≤ char.val && char.val ≤ 57) || char == '-' || char == '_') := rfl
  have ascii : 65 ≤ char.toNat ∧ char.toNat ≤ 90 ∨ 97 ≤ char.toNat ∧ char.toNat ≤ 122 ∨
      48 ≤ char.toNat ∧ char.toNat ≤ 57 ∨ char = '-' ∨ char = '_' := by
    simpa [ranges, UInt32.le_iff_toNat_le, or_assoc] using isName
  simp only [Text.isBlank, Text.blankRanges, Text.within]
  rcases ascii with ascii | ascii | ascii | rfl | rfl
  · grind
  · grind
  · grind
  · decide
  · decide

theorem name_stops_of_vendor {rest : List Char} (stops : Stops isNameChar rest) :
    Stops isVendorChar rest := by
  intro char first
  cases isVendor : isVendorChar char with
  | false => rfl
  | true =>
      have isName := isNameChar_of_isVendorChar isVendor
      rw [stops char first] at isName
      cases isName

/-! ## Pseudo selectors in general -/

theorem pseudoLength_atColon : BeginsAtColon pseudoLength := by
  intro char other rest
  unfold pseudoLength
  split
  · simp_all
  · simp_all
  · rfl

theorem pseudoLength_single {rest : List Char} (single : rest.head? ≠ some ':') :
    pseudoLength (':' :: rest) = 1 + (rest.takeWhile isNameChar).length := by
  unfold pseudoLength
  split
  next same =>
    cases same
    exact absurd rfl single
  next same =>
    cases same
    rfl
  next other => exact absurd rfl (other rest)

/-- At colons, a pseudo selector is found with as much of a name as there is. -/
theorem pseudoLength_append {name rest : List Char} (doubled : Bool)
    (each : ∀ char ∈ name, isNameChar char = true) (nonempty : name ≠ [])
    (stops : Stops isNameChar rest) :
    pseudoLength ((colons doubled ++ name) ++ rest) = (colons doubled ++ name).length := by
  have taken : (name ++ rest).takeWhile isNameChar = name := Text.takeWhile_of_stops each stops
  cases doubled with
  | true =>
      simp only [colons, List.cons_append, List.nil_append, pseudoLength, taken, List.length_cons]
      omega
  | false =>
      have single : (name ++ rest).head? ≠ some ':' := by
        cases name with
        | nil => exact absurd rfl nonempty
        | cons first others =>
            have other : first ≠ ':' := ne_colon_of_isNameChar (each first (by simp))
            simpa using other
      simp only [colons, List.cons_append, List.nil_append, pseudoLength_single single, taken,
        List.length_cons]
      omega

/-- What is found is a pseudo selector. -/
theorem pseudoLength_finds : Finds pseudoLength IsPseudo := by
  intro text
  unfold pseudoLength
  split
  next more =>
    obtain ⟨name, rest, split, each, -, taken⟩ := Text.exists_span isNameChar more
    refine .inr ⟨colons true ++ name, rest, ?_, by simp [colons], ⟨true, name, each, rfl⟩, ?_⟩
    · simp [colons, split]
    · simp only [colons, taken, List.length_append, List.length_cons, List.length_nil]
  next more _ =>
    obtain ⟨name, rest, split, each, -, taken⟩ := Text.exists_span isNameChar more
    refine .inr ⟨colons false ++ name, rest, ?_, by simp [colons], ⟨false, name, each, rfl⟩, ?_⟩
    · simp [colons, split]
    · simp only [colons, taken, List.length_append, List.length_cons, List.length_nil]
  next => exact .inl rfl

/-! ## Pseudo selectors of vendors -/

/-- At the start of a text, nothing is found or as much of the pseudo selector of a vendor as there
is. -/
theorem vendorLength_cases (text : List Char) :
    vendorLength text = 0 ∧ ¬[':', '-'] <+: text ∨
      ∃ doubled name rest, text = (colons doubled ++ '-' :: name) ++ rest ∧
        (∀ char ∈ name, isVendorChar char = true) ∧ Stops isVendorChar rest ∧
        vendorLength text = (colons doubled ++ '-' :: name).length := by
  unfold vendorLength
  split
  next more =>
    obtain ⟨name, rest, split, each, stops, taken⟩ := Text.exists_span isVendorChar more
    refine .inr ⟨true, name, rest, ?_, each, stops, ?_⟩
    · simp [colons, split]
    · simp only [colons, taken, List.length_append, List.length_cons, List.length_nil]
      omega
  next more =>
    obtain ⟨name, rest, split, each, stops, taken⟩ := Text.exists_span isVendorChar more
    refine .inr ⟨false, name, rest, ?_, each, stops, ?_⟩
    · simp [colons, split]
    · simp only [colons, taken, List.length_append, List.length_cons, List.length_nil]
      omega
  next other =>
    refine .inl ⟨rfl, ?_⟩
    rintro ⟨more, rfl⟩
    exact other more rfl

/-- Something is found at a colon with a hyphen behind. -/
theorem vendorLength_ne_zero {text : List Char} (begins : [':', '-'] <+: text) :
    vendorLength text ≠ 0 := by
  intro nothing
  rcases vendorLength_cases text with ⟨-, none⟩ | ⟨doubled, name, rest, -, -, -, length⟩
  · exact none begins
  · rw [nothing] at length
    simp at length

/-- What is found is the pseudo selector of a vendor. -/
theorem vendorLength_finds : Finds vendorLength IsVendors := by
  intro text
  rcases vendorLength_cases text with ⟨nothing, -⟩ | ⟨doubled, name, rest, split, each, -, length⟩
  · exact .inl nothing
  · exact .inr ⟨_, rest, split, by simp, ⟨doubled, name, each, rfl⟩, length⟩

/-- Behind the pseudo selector of a vendor that is found, its name does not go on. -/
theorem vendorLength_stops {found rest : List Char} (nonempty : found ≠ [])
    (isFound : vendorLength (found ++ rest) = found.length) : Stops isVendorChar rest := by
  rcases vendorLength_cases (found ++ rest) with ⟨nothing, -⟩ |
    ⟨doubled, name, behind, split, -, stops, length⟩
  · rw [isFound, List.length_eq_zero_iff] at nothing
    exact absurd nothing nonempty
  · obtain ⟨-, rfl⟩ := List.append_inj split (isFound.symm.trans length)
    exact stops

/-- At colons with a hyphen behind, the pseudo selector of a vendor is found with as much of a name
as there is. -/
theorem vendorLength_append {name rest : List Char} (doubled : Bool)
    (each : ∀ char ∈ name, isVendorChar char = true) (stops : Stops isVendorChar rest) :
    vendorLength ((colons doubled ++ '-' :: name) ++ rest) =
      (colons doubled ++ '-' :: name).length := by
  have taken : (name ++ rest).takeWhile isVendorChar = name := Text.takeWhile_of_stops each stops
  cases doubled <;>
    simp only [colons, List.cons_append, List.nil_append, vendorLength, taken, List.length_cons] <;>
    omega

/-- Nothing is found at colons if the text behind them begins neither with a hyphen nor with another
colon. -/
theorem vendorLength_eq_zero {name rest : List Char} (nonempty : name ≠ []) (noColon : ':' ∉ name)
    (noHyphen : name.head? ≠ some '-') (doubled : Bool) :
    vendorLength ((colons doubled ++ name) ++ rest) = 0 := by
  cases name with
  | nil => exact absurd rfl nonempty
  | cons first others =>
      have notColon : first ≠ ':' := by
        rintro rfl
        exact noColon (by simp)
      have notHyphen : first ≠ '-' := by simpa using noHyphen
      cases doubled <;>
        simp [colons, vendorLength, notColon, notHyphen]

theorem vendorLength_atColon : BeginsAtColon vendorLength := by
  intro char other rest
  unfold vendorLength
  split
  · simp_all
  · simp_all
  · rfl

/-! ## Preserved pseudo selectors -/

/-- Preserved names are names, and have no hyphen in front. -/
theorem name_of_preserved {name : List Char} (known : name ∈ preservedNames) :
    name ≠ [] ∧ (∀ char ∈ name, isNameChar char = true) ∧ name.head? ≠ some '-' := by
  have each : (preservedNames.all fun name =>
      !name.isEmpty && name.all isNameChar && name.head? != some '-') = true := by decide +kernel
  simpa [and_assoc] using List.all_eq_true.mp each name known

theorem not_mem_of_each {isClass : Char → Bool} {name : List Char} {char : Char}
    (each : ∀ char ∈ name, isClass char = true) (other : isClass char = false) : char ∉ name := by
  intro member
  rw [each char member] at other
  cases other

/-- The preserved pseudo selectors in the order in which they are looked for. -/
def preserved : List (List Char) :=
  preservedNames.flatMap fun name => [':' :: ':' :: name, ':' :: name]

theorem mem_preserved_iff {found : List Char} : found ∈ preserved ↔ IsPreserved found := by
  simp only [preserved, List.mem_flatMap, List.mem_cons, List.not_mem_nil, or_false, IsPreserved]
  constructor
  · rintro ⟨name, known, rfl | rfl⟩
    · exact ⟨true, name, known, rfl⟩
    · exact ⟨false, name, known, rfl⟩
  · rintro ⟨doubled, name, known, rfl⟩
    cases doubled
    · exact ⟨name, known, .inr rfl⟩
    · exact ⟨name, known, .inl rfl⟩

/-- No preserved pseudo selector is the beginning of another one. -/
theorem eq_of_prefix_preserved {first second : List Char} (isFirst : first ∈ preserved)
    (isSecond : second ∈ preserved) (begins : first <+: second) : first = second := by
  have each : (preserved.all fun first => preserved.all fun second =>
      !first.isPrefixOf second || first == second) = true := by decide +kernel
  have ofFirst := List.all_eq_true.mp each first isFirst
  have ofBoth := List.all_eq_true.mp ofFirst second isSecond
  simpa [List.isPrefixOf_iff_prefix.mpr begins] using ofBoth

/-- At the start of a text, nothing is found or the preserved pseudo selector with which it
begins. -/
theorem preservedLength_cases (text : List Char) :
    preservedLength text = 0 ∧ (∀ found, IsPreserved found → ¬found <+: text) ∨
      ∃ found rest, text = found ++ rest ∧ IsPreserved found ∧
        preservedLength text = found.length := by
  have length : preservedLength text =
      (preserved.find? (·.isPrefixOf text)).elim 0 List.length := rfl
  cases search : preserved.find? (·.isPrefixOf text) with
  | none =>
      rw [search] at length
      refine .inl ⟨length, fun found isPreserved begins => ?_⟩
      refine List.find?_eq_none.mp search found (mem_preserved_iff.mpr isPreserved) ?_
      exact List.isPrefixOf_iff_prefix.mpr begins
  | some found =>
      rw [search] at length
      have begins := List.find?_some search
      obtain ⟨rest, split⟩ := List.isPrefixOf_iff_prefix.mp begins
      have isPreserved := mem_preserved_iff.mp (List.mem_of_find?_eq_some search)
      exact .inr ⟨found, rest, split.symm, isPreserved, length⟩

theorem ne_nil_of_isPreserved {found : List Char} (isPreserved : IsPreserved found) :
    found ≠ [] := by
  obtain ⟨doubled, name, -, rfl⟩ := isPreserved
  cases doubled <;> simp [colons]

/-- What is found is a preserved pseudo selector. -/
theorem preservedLength_finds : Finds preservedLength IsPreserved := by
  intro text
  rcases preservedLength_cases text with ⟨nothing, -⟩ | ⟨found, rest, split, isPreserved, length⟩
  · exact .inl nothing
  · exact .inr ⟨found, rest, split, ne_nil_of_isPreserved isPreserved, isPreserved, length⟩

/-- A preserved pseudo selector is found, whatever is behind it. -/
theorem preservedLength_append {found : List Char} (isPreserved : IsPreserved found)
    (rest : List Char) : preservedLength (found ++ rest) = found.length := by
  rcases preservedLength_cases (found ++ rest) with ⟨-, none⟩ |
    ⟨other, behind, split, isOther, length⟩
  · exact absurd (List.prefix_append found rest) (none found isPreserved)
  · have first := mem_preserved_iff.mpr isPreserved
    have second := mem_preserved_iff.mpr isOther
    have same : found = other := by
      rcases List.prefix_or_prefix_of_prefix (List.prefix_append found rest) ⟨behind, split.symm⟩
        with begins | begins
      · exact eq_of_prefix_preserved first second begins
      · exact (eq_of_prefix_preserved second first begins).symm
    rw [length, same]

/-- Nothing is found where no preserved pseudo selector begins. -/
theorem preservedLength_eq_zero_iff {text : List Char} :
    preservedLength text = 0 ↔ ∀ found, IsPreserved found → ¬found <+: text := by
  constructor
  · rintro nothing found isPreserved ⟨rest, rfl⟩
    rw [preservedLength_append isPreserved, List.length_eq_zero_iff] at nothing
    exact ne_nil_of_isPreserved isPreserved nothing
  · intro none
    rcases preservedLength_cases text with ⟨nothing, -⟩ | ⟨found, rest, split, isPreserved, -⟩
    · exact nothing
    · exact absurd ⟨rest, split.symm⟩ (none found isPreserved)

theorem preservedLength_atColon : BeginsAtColon preservedLength := by
  intro char other rest
  refine preservedLength_eq_zero_iff.mpr ?_
  rintro found ⟨doubled, name, -, rfl⟩ begins
  cases doubled <;> exact other (List.cons_prefix_cons.mp begins).1.symm

/-- Nothing is found at colons if the text behind them begins neither with a preserved name nor with
one more colon. -/
theorem preservedLength_eq_zero {name rest : List Char} (nonempty : name ≠ [])
    (noColon : ':' ∉ name) (unknown : ∀ known ∈ preservedNames, ¬known <+: name ++ rest)
    (doubled : Bool) : preservedLength ((colons doubled ++ name) ++ rest) = 0 := by
  refine preservedLength_eq_zero_iff.mpr ?_
  rintro found ⟨doubled', known, isKnown, rfl⟩ begins
  obtain ⟨knownSome, areNames, -⟩ := name_of_preserved isKnown
  cases name with
  | nil => exact nonempty rfl
  | cons first others =>
      cases known with
      | nil => exact knownSome rfl
      | cons knownFirst knownOthers =>
          have notColon : knownFirst ≠ ':' := ne_colon_of_isNameChar (areNames knownFirst (by simp))
          cases doubled <;> cases doubled' <;>
            simp only [colons, List.cons_append, List.nil_append, List.cons_prefix_cons] at begins
          · exact unknown _ isKnown (List.cons_prefix_cons.mpr begins.2)
          · exact noColon (begins.2.1 ▸ by simp)
          · exact notColon begins.2.1
          · exact unknown _ isKnown (List.cons_prefix_cons.mpr begins.2.2)

/-! ## Reduction -/

/-- A selector without colons is reduced to itself. -/
theorem reduce_of_not_mem {selector : String} (noColon : ':' ∉ selector.toList) :
    reduce selector = some selector := by
  have hasNone : selector.toList.contains ':' = false := by simpa using noColon
  simp only [reduce, reduceChars, hasNone, Bool.false_eq_true, if_false, Option.map_some,
    String.ofList_toList]

/-- A selector with colons is reduced in two rounds, unless it turns out to be blank without its
pseudo selectors. -/
theorem reduce_of_mem {selector : String} (hasColon : ':' ∈ selector.toList) :
    reduce selector =
      if (delete pseudoLength (delete preservedLength selector.toList)).all Text.isBlank then none
      else some (String.ofList (delete vendorLength (delete preservedLength selector.toList))) := by
  have contains : selector.toList.contains ':' = true := by simpa using hasColon
  simp only [reduce, reduceChars, contains, if_true]
  split <;> rfl

end CriticalCss.Selector
