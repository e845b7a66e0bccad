import CriticalCss.Number.Integer

/-!
# Numerals are read back

A text of decimal digits, of whatever script, is read as a number as long as it is not too long, and
no other text of digits is.  The decimal numeral of a natural number is such a text, and it is read
back as the number.
-/

namespace CriticalCss

namespace Text

variable {char : Char}

theorem toNat_of_isDigit (digit : char.isDigit = true) : 48 ≤ char.toNat ∧ char.toNat ≤ 57 :=
  Char.isDigit_iff_toNat.mp digit

theorem decimalValue?_of_isDigit (digit : char.isDigit = true) :
    decimalValue? char = some (char.toNat - '0'.toNat) := by
  have ⟨low, high⟩ := toNat_of_isDigit digit
  have inFirst : char.toNat < 58 := by omega
  simp [decimalValue?, decimalZeros, low, inFirst]

theorem isDigit_of_isDigit (digit : char.isDigit = true) : isDigit char = true := by
  simp [isDigit, isDecimal, decimalValue?_of_isDigit digit]

/-- A numeral consists of digits. -/
theorem isDigits_toString (number : Nat) : isDigits (toString number) = true := by
  have digits : ∀ char ∈ Nat.toDigits 10 number, isDigit char = true := fun char member =>
    isDigit_of_isDigit (Nat.isDigit_of_mem_toDigits (by decide) (by decide) member)
  simpa [isDigits, Nat.toDigits_ne_nil] using digits

/-! ## Digits of all scripts -/

/-- What lies in a set of characters lies in one of its ranges. -/
theorem exists_range_of_within {ranges : List (Nat × Nat)} {code : Nat}
    (inside : within ranges code = true) :
    ∃ range ∈ ranges, range.1 ≤ code ∧ code ≤ range.2 := by
  induction ranges with
  | nil => cases inside
  | cons range rest ih =>
      obtain ⟨low, high⟩ := range
      simp only [within, Bool.and_eq_true, Bool.or_eq_true, decide_eq_true_eq] at inside
      obtain ⟨above, below | later⟩ := inside
      · exact ⟨(low, high), by simp, above, below⟩
      · obtain ⟨other, member, bounds⟩ := ih later
        exact ⟨other, by simp [member], bounds⟩

/-- The ranges of all digits, decimal or not. -/
def digitRanges : List (Nat × Nat) :=
  decimalZeros.map (fun first => (first, first + 9)) ++ otherDigitRanges

theorem exists_range_of_isDigit (digit : isDigit char = true) :
    ∃ range ∈ digitRanges, range.1 ≤ char.toNat ∧ char.toNat ≤ range.2 := by
  rw [isDigit, Bool.or_eq_true] at digit
  rcases digit with decimal | other
  · rw [isDecimal, decimalValue?, Option.isSome_map, List.find?_isSome] at decimal
    obtain ⟨first, member, bounds⟩ := decimal
    have ⟨low, high⟩ := of_decide_eq_true bounds
    refine ⟨(first, first + 9), ?_, low, by simp only; omega⟩
    exact List.mem_append_left _ (List.mem_map.mpr ⟨first, member, rfl⟩)
  · obtain ⟨range, member, bounds⟩ := exists_range_of_within other
    exact ⟨range, List.mem_append_right _ member, bounds⟩

theorem blanks_apart_from_digits : ∀ blanks ∈ blankRanges, ∀ digits ∈ digitRanges,
    blanks.2 < digits.1 ∨ digits.2 < blanks.1 := by
  decide

theorem isBlank_of_isDigit (digit : isDigit char = true) : isBlank char = false := by
  rw [← Bool.not_eq_true]
  intro blank
  obtain ⟨digits, isRange, low, high⟩ := exists_range_of_isDigit digit
  obtain ⟨blanks, isBlankRange, above, below⟩ := exists_range_of_within blank
  have apart := blanks_apart_from_digits blanks isBlankRange digits isRange
  omega

theorem isDigit_of_isDecimal (decimal : isDecimal char = true) : isDigit char = true := by
  rw [isDigit, decimal, Bool.true_or]

/-- The value of a decimal digit, and zero for other characters. -/
def digitValue (char : Char) : Nat := (decimalValue? char).getD 0

theorem decimalValue?_of_isDecimal (decimal : isDecimal char = true) :
    decimalValue? char = some (digitValue char) := by
  obtain ⟨value, isValue⟩ := Option.isSome_iff_exists.mp decimal
  rw [digitValue, isValue, Option.getD_some]

theorem decimalValue?_of_not_isDecimal (other : isDecimal char = false) :
    decimalValue? char = none :=
  Option.isNone_iff_eq_none.mp (by simpa [isDecimal] using other)

end Text

namespace Integer

variable {chars : List Char}

theorem isPadding_of_isDigit {char : Char} (digit : Text.isDigit char = true) :
    isPadding char = false := by
  rw [isPadding, Text.isBlank_of_isDigit digit, Bool.false_and]

/-- Trimming leaves digits alone. -/
theorem trimEnds_of_digits (digits : ∀ char ∈ chars, Text.isDigit char = true) :
    Text.trimEnds isPadding chars = chars := by
  have untouched : ∀ text : List Char, (∀ char ∈ text, Text.isDigit char = true) →
      text.dropWhile isPadding = text := by
    intro text allDigits
    cases text with
    | nil => rfl
    | cons first rest =>
        simp [List.dropWhile, isPadding_of_isDigit (allDigits first (by simp))]
  rw [Text.trimEnds, untouched chars digits, untouched chars.reverse (by simpa using digits),
    List.reverse_reverse]

/-- Digits have no sign in front of them. -/
theorem splitSign_of_digits (digits : ∀ char ∈ chars, Text.isDigit char = true) :
    splitSign chars = (false, chars) := by
  simp only [splitSign]
  split
  · exact absurd (digits '-' (by simp)) (by decide)
  · exact absurd (digits '+' (by simp)) (by decide)
  · rfl

/-- No digit is an underscore, so digits are read one by one. -/
theorem digitValues?_cons {first second : Char} {others : List Char}
    (digit : Text.isDigit second = true) :
    digitValues? (first :: second :: others) =
      match Text.decimalValue? first, digitValues? (second :: others) with
      | some value, some values => some (value :: values)
      | _, _ => none := by
  have noUnderscore : second ≠ '_' := by
    intro same
    rw [same] at digit
    exact absurd digit (by decide)
  rw [digitValues?.eq_def]
  split
  next isEmpty => cases isEmpty
  next isSingle => cases isSingle
  next isPair => exact absurd (List.cons.inj (List.cons.inj isPair).2).1 noUnderscore
  next isPair =>
    cases isPair
    rfl

theorem digitValues?_of_decimals (nonempty : chars ≠ [])
    (decimals : ∀ char ∈ chars, Text.isDecimal char = true) :
    digitValues? chars = some (chars.map Text.digitValue) := by
  induction chars with
  | nil => exact absurd rfl nonempty
  | cons first rest ih =>
      have firstValue := Text.decimalValue?_of_isDecimal (decimals first (by simp))
      cases rest with
      | nil => simp [digitValues?, firstValue]
      | cons second others =>
          have digit := Text.isDigit_of_isDecimal (decimals second (by simp))
          have restValues := ih (by simp) fun char member => decimals char (by simp [member])
          rw [digitValues?_cons digit, firstValue, restValues]
          rfl

/-- A digit that is not decimal makes a text of digits unreadable. -/
theorem digitValues?_of_other (digits : ∀ char ∈ chars, Text.isDigit char = true) {other : Char}
    (member : other ∈ chars) (notDecimal : Text.isDecimal other = false) :
    digitValues? chars = none := by
  induction chars with
  | nil => cases member
  | cons first rest ih =>
      cases rest with
      | nil =>
          rw [List.mem_singleton.mp member] at notDecimal
          simp [digitValues?, Text.decimalValue?_of_not_isDecimal notDecimal]
      | cons second others =>
          rw [digitValues?_cons (digits second (by simp))]
          rcases List.mem_cons.mp member with isFirst | later
          · rw [← isFirst, Text.decimalValue?_of_not_isDecimal notDecimal]
          · have restNone := ih (fun char among => digits char (by simp [among])) later
            rw [restNone]
            split
            next found => cases found
            next => rfl

/-- Decimal digits of all scripts are read as the number that they denote, unless they are too
many. -/
theorem read_of_decimals (nonempty : chars ≠ [])
    (decimals : ∀ char ∈ chars, Text.isDecimal char = true) :
    read chars =
      if digitLimit < chars.length then .error (.tooLong chars.length)
      else .ok (ofDigitValues (chars.map Text.digitValue)) := by
  have digits : ∀ char ∈ chars, Text.isDigit char = true := fun char member =>
    Text.isDigit_of_isDecimal (decimals char member)
  simp only [read, trimEnds_of_digits digits, splitSign_of_digits digits,
    digitValues?_of_decimals nonempty decimals, List.length_map, Bool.false_eq_true, if_false]

/-- A digit that is not decimal has no place in a number. -/
theorem read_of_other (digits : ∀ char ∈ chars, Text.isDigit char = true) {other : Char}
    (member : other ∈ chars) (notDecimal : Text.isDecimal other = false) :
    read chars = .error .notANumber := by
  simp only [read, trimEnds_of_digits digits, splitSign_of_digits digits,
    digitValues?_of_other digits member notDecimal]

/-- A number that is not too long has no more digits than the limit. -/
theorem length_toDigits_le {value : Int} (short : isTooLong value = false) :
    (Nat.toDigits 10 value.natAbs).length ≤ digitLimit := by
  simp only [isTooLong, decide_eq_false_iff_not, Nat.not_le] at short
  have positive : 0 < digitLimit := by decide
  generalize digitLimit = limit at short positive ⊢
  rw [Nat.length_toDigits_le_iff (by decide) positive]
  exact short

/-- A numeral that is not too long is read back. -/
theorem read_toString {number : Nat} (short : isTooLong number = false) :
    read (toString number).toList = .ok number := by
  have digits : ∀ char ∈ Nat.toDigits 10 number, char.isDigit = true := fun char member =>
    Nat.isDigit_of_mem_toDigits (by decide) (by decide) member
  have decimals : ∀ char ∈ Nat.toDigits 10 number, Text.isDecimal char = true := by
    intro char member
    rw [Text.isDecimal, Text.decimalValue?_of_isDigit (digits char member), Option.isSome_some]
  have length : (Nat.toDigits 10 number).length ≤ digitLimit := length_toDigits_le short
  have values : (Nat.toDigits 10 number).map Text.digitValue =
      (Nat.toDigits 10 number).map fun char => char.toNat - '0'.toNat := by
    apply List.map_congr_left
    intro char member
    rw [Text.digitValue, Text.decimalValue?_of_isDigit (digits char member), Option.getD_some]
  have value : ofDigitValues ((Nat.toDigits 10 number).map Text.digitValue) = number := by
    rw [values, ofDigitValues, List.foldl_map]
    exact Nat.ofDigitChars_ten_toDigits
  rw [Nat.toString_eq_repr, Nat.toList_repr, read_of_decimals Nat.toDigits_ne_nil decimals,
    if_neg (Nat.not_lt.mpr length), value]

end Integer

end CriticalCss
