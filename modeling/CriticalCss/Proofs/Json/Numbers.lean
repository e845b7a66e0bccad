import CriticalCss.Json.Reader
import CriticalCss.Json.Writer
import CriticalCss.Proofs.Number.Rounding
import CriticalCss.Proofs.Numerals

/-!
# Numbers are read back

The text of a number, with anything behind it that cannot be a part of a number, is read as the
number, and what is behind it is left: all the digits of a whole number, and for a double the decimal
that it is written as, whichever way this is laid out.
-/

namespace CriticalCss

/-! ## Digits -/

/-- Decimal digits only. -/
def AllDigits (chars : List Char) : Prop := ∀ char ∈ chars, char.isDigit = true

namespace AllDigits

variable {digits others : List Char}

theorem append (first : AllDigits digits) (second : AllDigits others) :
    AllDigits (digits ++ others) := by
  intro char member
  rcases List.mem_append.mp member with inFirst | inSecond
  · exact first char inFirst
  · exact second char inSecond

theorem zeros (count : Nat) : AllDigits (List.replicate count '0') := by
  intro char member
  rw [List.eq_of_mem_replicate member]
  rfl

theorem zero : AllDigits ['0'] := zeros 1

theorem toDigits (number : Nat) : AllDigits (Nat.toDigits 10 number) :=
  fun _ => Nat.isDigit_of_mem_toDigits (by decide) (by decide)

theorem take (each : AllDigits digits) (count : Nat) : AllDigits (digits.take count) :=
  fun char member => each char (List.mem_of_mem_take member)

theorem drop (each : AllDigits digits) (count : Nat) : AllDigits (digits.drop count) :=
  fun char member => each char (List.mem_of_mem_drop member)

end AllDigits

/-- The first digit of a number other than zero is no zero. -/
theorem exists_toDigits_eq_cons {number : Nat} (nonzero : number ≠ 0) :
    ∃ first others, Nat.toDigits 10 number = first :: others ∧ first ≠ '0' := by
  induction number using Nat.strongRecOn with
  | ind number ih =>
      rw [Nat.toDigits_eq_if (by decide)]
      split
      next single =>
        refine ⟨number.digitChar, [], rfl, ?_⟩
        intro isZero
        have value : number.digitChar.toNat = 48 + number := Nat.toNat_digitChar_of_lt_ten single
        rw [isZero] at value
        exact nonzero (Nat.add_left_cancel value).symm
      next several =>
        obtain ⟨first, others, digits, noZero⟩ := ih (number / 10) (by omega) (by omega)
        exact ⟨first, others ++ [(number % 10).digitChar], by rw [digits]; rfl, noZero⟩

/-- Digits are those of their number, with zeros before them or not. -/
theorem ofDigitChars_zeros_append (count number : Nat) :
    Nat.ofDigitChars 10 (List.replicate count '0' ++ Nat.toDigits 10 number) 0 = number := by
  rw [Nat.ofDigitChars_append, Nat.ofDigitChars_replicate_zero, Nat.mul_zero,
    Nat.ofDigitChars_toDigits (by decide) (by decide)]

namespace Json

/-- The digits of a whole number as they are written: at least one, and no zero before others. -/
inductive IsWhole : List Char → Prop where
  | intro {first : Char} {others : List Char} :
      AllDigits (first :: others) → (first = '0' → others = []) → IsWhole (first :: others)

theorem IsWhole.allDigits {digits : List Char} (whole : IsWhole digits) : AllDigits digits := by
  cases whole with
  | intro each _ => exact each

theorem isWhole_toDigits (number : Nat) : IsWhole (Nat.toDigits 10 number) := by
  by_cases zero : number = 0
  · rw [zero]
    exact .intro (AllDigits.toDigits 0) fun _ => rfl
  · obtain ⟨first, others, digits, noZero⟩ := exists_toDigits_eq_cons zero
    have each := AllDigits.toDigits number
    rw [digits] at each ⊢
    exact .intro each fun isZero => absurd isZero noZero

theorem isWhole_zero : IsWhole ['0'] := isWhole_toDigits 0

/-! ## The parts of a number -/

/-- Something that cannot be a part of a number is behind it. -/
structure EndsNumber (rest : List Char) : Prop where
  noDigit : ∀ char ∈ rest.head?, char.isDigit = false
  noPoint : ∀ char ∈ rest.head?, char ≠ '.'
  noPower : ∀ char ∈ rest.head?, ¬(char = 'e' ∨ char = 'E')

variable {digits rest : List Char}

theorem digitSpan_append (each : AllDigits digits)
    (ends : ∀ char ∈ rest.head?, char.isDigit = false) :
    digitSpan (digits ++ rest) = (digits, rest) := by
  have nothing : rest.takeWhile Char.isDigit = [] ∧ rest.dropWhile Char.isDigit = rest := by
    cases rest with
    | nil => exact ⟨rfl, rfl⟩
    | cons char rest =>
        have noDigit : char.isDigit = false := ends char rfl
        simp [noDigit]
  rw [digitSpan, List.takeWhile_append_of_pos each, List.dropWhile_append_of_pos each, nothing.1,
    nothing.2, List.append_nil]

theorem wholePart_append (whole : IsWhole digits)
    (ends : ∀ char ∈ rest.head?, char.isDigit = false) :
    wholePart (digits ++ rest) = some (digits, rest) := by
  cases whole with
  | @intro first others each noZero =>
      by_cases isZero : first = '0'
      · rw [noZero isZero, isZero]
        rfl
      · have digit : first.isDigit = true := each first (by simp)
        have span := digitSpan_append each ends
        rw [List.cons_append] at span ⊢
        unfold wholePart
        split
        next same => exact absurd (List.cons.inj same).1 isZero
        next same =>
          cases same
          rw [if_pos digit, span]
        next same => cases same

theorem fractionPart_none (ends : ∀ char ∈ rest.head?, char ≠ '.') :
    fractionPart rest = (none, rest) := by
  simp only [fractionPart]
  split
  · exact absurd rfl (ends '.' rfl)
  · rfl

theorem fractionPart_append (each : AllDigits digits) (nonempty : digits ≠ [])
    (ends : ∀ char ∈ rest.head?, char.isDigit = false) :
    fractionPart ('.' :: (digits ++ rest)) = (some digits, rest) := by
  obtain ⟨first, others, rfl⟩ := List.exists_cons_of_ne_nil nonempty
  have digit : first.isDigit = true := each first (by simp)
  have span := digitSpan_append each ends
  rw [List.cons_append] at span ⊢
  rw [fractionPart, if_pos digit, span]

theorem powerPart_none (ends : ∀ char ∈ rest.head?, ¬(char = 'e' ∨ char = 'E')) :
    powerPart rest = (none, rest) := by
  cases rest with
  | nil => rfl
  | cons char rest => rw [powerPart, if_neg (ends char rfl)]

/-- A power of ten with its sign. -/
theorem powerPart_powerText (width : Nat) (power : Int)
    (ends : ∀ char ∈ rest.head?, char.isDigit = false) :
    powerPart ('e' :: (Decimal.powerText width power ++ rest)) = (some power, rest) := by
  let zeros := List.replicate (width - (Nat.toDigits 10 power.natAbs).length) '0'
  have each : AllDigits (zeros ++ Nat.toDigits 10 power.natAbs) :=
    (AllDigits.zeros _).append (AllDigits.toDigits _)
  have magnitude : Nat.ofDigitChars 10 (zeros ++ Nat.toDigits 10 power.natAbs) 0 =
      power.natAbs := ofDigitChars_zeros_append _ _
  have split : Integer.splitSign (Decimal.powerText width power ++ rest) =
      (decide (power < 0), zeros ++ Nat.toDigits 10 power.natAbs ++ rest) := by
    by_cases negative : power < 0
    · simp [Decimal.powerText, Integer.splitSign, negative, zeros]
    · simp [Decimal.powerText, Integer.splitSign, negative, zeros]
  have span := digitSpan_append each ends
  obtain ⟨first, others, digits⟩ : ∃ first others,
      zeros ++ Nat.toDigits 10 power.natAbs = first :: others :=
    List.exists_cons_of_ne_nil (by simp [Nat.toDigits_ne_nil])
  rw [powerPart, if_pos (.inl rfl), split]
  rw [digits] at span magnitude ⊢
  simp only [span, magnitude]
  by_cases negative : power < 0
  · simp only [negative, decide_true, if_true]
    congr 2
    omega
  · simp only [negative, decide_false, Bool.false_eq_true, if_false]
    congr 2
    omega

/-! ## Magnitudes -/

variable {negative : Bool}

theorem readMagnitude_whole {number : Nat}
    (short : (Nat.toDigits 10 number).length ≤ Integer.digitLimit) (ends : EndsNumber rest) :
    readMagnitude negative (Nat.toDigits 10 number ++ rest) =
      some (.ok (.whole (if negative then -(number : Int) else number)), rest) := by
  rw [readMagnitude, wholePart_append (isWhole_toDigits number) ends.noDigit]
  simp only [fractionPart_none ends.noPoint, powerPart_none ends.noPower, Option.isNone_none,
    Bool.and_self, if_true, if_neg (Nat.not_lt.mpr short),
    Nat.ofDigitChars_toDigits (by decide : 1 < 10) (by decide)]

/-- A number with a fraction or a power of ten is read as the double that its digits stand for. -/
theorem readMagnitude_real {text behindWhole behindFraction whole : List Char}
    {fraction : Option (List Char)} {power : Option Int}
    (wholeIs : wholePart text = some (whole, behindWhole))
    (fractionIs : fractionPart behindWhole = (fraction, behindFraction))
    (powerIs : powerPart behindFraction = (power, rest))
    (isReal : (fraction.isNone && power.isNone) = false) :
    readMagnitude negative text =
      some (.ok (.real (Decimal.toBinary64 ⟨negative,
        Nat.ofDigitChars 10 (whole ++ fraction.getD []) 0,
        power.getD 0 - ((fraction.getD []).length : Int)⟩)), rest) := by
  rw [readMagnitude, wholeIs]
  simp only [fractionIs, powerIs, isReal, Bool.false_eq_true, if_false]

theorem noDigit_cons {first : Char} (noDigit : first.isDigit = false) (behind : List Char) :
    ∀ char ∈ (first :: behind).head?, char.isDigit = false := by
  rintro char ⟨⟩
  exact noDigit

/-- Digits on both sides of a point. -/
theorem readMagnitude_point {front back : List Char} (whole : IsWhole front)
    (each : AllDigits back) (nonempty : back ≠ []) (ends : EndsNumber rest) :
    readMagnitude negative (front ++ '.' :: (back ++ rest)) =
      some (.ok (.real (Decimal.toBinary64
        ⟨negative, Nat.ofDigitChars 10 (front ++ back) 0, -(back.length : Int)⟩)), rest) := by
  rw [readMagnitude_real (wholePart_append whole (noDigit_cons rfl _))
    (fractionPart_append each nonempty ends.noDigit) (powerPart_none ends.noPower) rfl]
  simp only [Option.getD_some, Option.getD_none, Int.zero_sub]

section

variable {number : Nat}

/-- Zeros between the digits and the point.  A zero stands alone. -/
theorem readMagnitude_padded {power : Nat} (trimmed : number = 0 → power = 0)
    (ends : EndsNumber rest) :
    readMagnitude negative
        (Nat.toDigits 10 number ++ List.replicate power '0' ++ '.' :: (['0'] ++ rest)) =
      some (.ok (.real (Decimal.toBinary64 ⟨negative, number, power⟩)), rest) := by
  have whole : IsWhole (Nat.toDigits 10 number ++ List.replicate power '0') := by
    by_cases zero : number = 0
    · rw [zero, trimmed zero]
      exact isWhole_toDigits 0
    · obtain ⟨first, others, digits, noZero⟩ := exists_toDigits_eq_cons zero
      have each := (AllDigits.toDigits number).append (AllDigits.zeros power)
      rw [digits] at each ⊢
      exact .intro each fun isZero => absurd isZero noZero
  have value : Nat.ofDigitChars 10 (Nat.toDigits 10 number ++ List.replicate power '0' ++ ['0']) 0 =
      number * 10 ^ (power + 1) := by
    have zeros : List.replicate power '0' ++ ['0'] = List.replicate (power + 1) '0' :=
      List.replicate_succ'.symm
    rw [List.append_assoc, zeros, Nat.ofDigitChars_append, Nat.ofDigitChars_replicate_zero,
      Nat.ofDigitChars_toDigits (by decide) (by decide), Nat.mul_comm]
  have place : -((['0'] : List Char).length : Int) = power - ((power + 1 : Nat) : Int) := by
    simp only [List.length_singleton]
    omega
  rw [readMagnitude_point whole .zero (by simp) ends, value, place,
    Decimal.toBinary64_shift]

/-- A point among the digits. -/
theorem readMagnitude_pointed {places : Nat} (behind : 0 < places)
    (within : places < (Nat.toDigits 10 number).length) (ends : EndsNumber rest) :
    readMagnitude negative
        ((Nat.toDigits 10 number).take ((Nat.toDigits 10 number).length - places) ++
          '.' :: ((Nat.toDigits 10 number).drop ((Nat.toDigits 10 number).length - places) ++
            rest)) =
      some (.ok (.real (Decimal.toBinary64 ⟨negative, number, -(places : Int)⟩)), rest) := by
  have each := AllDigits.toDigits number
  have value : Nat.ofDigitChars 10 (Nat.toDigits 10 number) 0 = number :=
    ofDigitChars_zeros_append 0 number
  have several : number ≠ 0 := by
    rintro rfl
    exact absurd within (Nat.not_lt.mpr behind)
  obtain ⟨first, others, digits, noZero⟩ := exists_toDigits_eq_cons several
  generalize Nat.toDigits 10 number = all at *
  have whole : IsWhole (all.take (all.length - places)) := by
    have eachOfFront := each.take (all.length - places)
    have one : all.length - places = all.length - places - 1 + 1 := by omega
    rw [one, digits, List.take_succ_cons] at eachOfFront ⊢
    exact .intro eachOfFront fun isZero => absurd isZero noZero
  have length : (all.drop (all.length - places)).length = places := by
    rw [List.length_drop]
    omega
  have nonempty : all.drop (all.length - places) ≠ [] := by
    intro isEmpty
    rw [isEmpty] at length
    exact absurd length (Nat.ne_of_lt behind)
  rw [readMagnitude_point whole (each.drop _) nonempty ends, List.take_append_drop, length, value]

/-- Zeros between the point and the digits. -/
theorem readMagnitude_fraction (zeros : Nat) (ends : EndsNumber rest) :
    readMagnitude negative
        (['0'] ++ '.' :: (List.replicate zeros '0' ++ Nat.toDigits 10 number ++ rest)) =
      some (.ok (.real (Decimal.toBinary64
        ⟨negative, number, -((zeros + (Nat.toDigits 10 number).length : Nat) : Int)⟩)), rest) := by
  have each : AllDigits (List.replicate zeros '0' ++ Nat.toDigits 10 number) :=
    (AllDigits.zeros zeros).append (AllDigits.toDigits number)
  have value : Nat.ofDigitChars 10
      (['0'] ++ (List.replicate zeros '0' ++ Nat.toDigits 10 number)) 0 = number :=
    ofDigitChars_zeros_append (zeros + 1) number
  rw [readMagnitude_point isWhole_zero each (by simp [Nat.toDigits_ne_nil]) ends, value,
    List.length_append, List.length_replicate]

/-- One digit before the point, and a power of ten. -/
theorem readMagnitude_scientific (width : Nat) (exponent : Int) (ends : EndsNumber rest) :
    readMagnitude negative (Decimal.scientific width (Nat.toDigits 10 number)
        (exponent + ((Nat.toDigits 10 number).length : Int) - 1) ++ rest) =
      some (.ok (.real (Decimal.toBinary64 ⟨negative, number, exponent⟩)), rest) := by
  have each := AllDigits.toDigits number
  have value : Nat.ofDigitChars 10 (Nat.toDigits 10 number) 0 = number :=
    ofDigitChars_zeros_append 0 number
  obtain ⟨first, others, digits⟩ :=
    List.exists_cons_of_ne_nil (Nat.toDigits_ne_nil : Nat.toDigits 10 number ≠ [])
  rw [digits] at each value ⊢
  have single : IsWhole [first] := .intro (each.take 1) fun _ => rfl
  have eachOther : AllDigits others := each.drop 1
  cases others with
  | nil =>
      have text : Decimal.scientific width [first] (exponent + ([first].length : Int) - 1) ++ rest =
          [first] ++ 'e' :: (Decimal.powerText width exponent ++ rest) := by
        simp [Decimal.scientific]
      have noPoint : fractionPart ('e' :: (Decimal.powerText width exponent ++ rest)) =
          (none, 'e' :: (Decimal.powerText width exponent ++ rest)) :=
        fractionPart_none (by rintro char ⟨⟩; decide)
      rw [text, readMagnitude_real (wholePart_append single (noDigit_cons rfl _)) noPoint
        (powerPart_powerText width exponent ends.noDigit) rfl]
      simp only [Option.getD_none, Option.getD_some, List.append_nil, value, List.length_nil,
        Int.natCast_zero, Int.sub_zero]
  | cons second others =>
      let power := exponent + ((first :: second :: others).length : Int) - 1
      have text : Decimal.scientific width (first :: second :: others) power ++ rest =
          [first] ++ '.' :: (second :: others ++
            'e' :: (Decimal.powerText width power ++ rest)) := by
        simp [Decimal.scientific]
      have exponentIs : power - ((second :: others).length : Int) = exponent := by
        simp only [power, List.length_cons]
        omega
      rw [text, readMagnitude_real (wholePart_append single (noDigit_cons rfl _))
        (fractionPart_append eachOther (by simp) (noDigit_cons rfl _))
        (powerPart_powerText width power ends.noDigit) rfl]
      simp only [Option.getD_some, exponentIs, List.singleton_append, value]

/-- Digits by position. -/
theorem readMagnitude_positional {exponent : Int} (trimmed : number = 0 → exponent = 0)
    (ends : EndsNumber rest) :
    readMagnitude negative (Decimal.positional (Nat.toDigits 10 number) exponent ++ rest) =
      some (.ok (.real (Decimal.toBinary64 ⟨negative, number, exponent⟩)), rest) := by
  cases exponent with
  | ofNat power =>
      have noPower (zero : number = 0) : power = 0 := Int.ofNat.inj (trimmed zero)
      have text : Decimal.positional (Nat.toDigits 10 number) (.ofNat power) ++ rest =
          Nat.toDigits 10 number ++ List.replicate power '0' ++ '.' :: (['0'] ++ rest) := by
        simp [Decimal.positional]
      rw [text]
      exact readMagnitude_padded noPower ends
  | negSucc power =>
      rw [Decimal.positional]
      split
      next within =>
        rw [List.append_assoc, List.cons_append]
        exact readMagnitude_pointed (Nat.succ_pos power) within ends
      next notWithin =>
        have places : power + 1 - (Nat.toDigits 10 number).length +
            (Nat.toDigits 10 number).length = power + 1 := by omega
        have read := @readMagnitude_fraction rest negative number
          (power + 1 - (Nat.toDigits 10 number).length) ends
        rw [places] at read
        exact read

end

/-! ## Numerals -/

/-- A sign before a number, if it is negative. -/
def signText (negative : Bool) : List Char := if negative then ['-'] else []

/-- A text that is read as a number, whatever is behind it that is no part of it. -/
inductive IsNumeral (number : Number) : List Char → Prop where
  | intro (negative : Bool) {text : List Char} :
      (∀ rest, EndsNumber rest →
        readMagnitude negative (text ++ rest) = some (.ok number, rest)) →
      IsNumeral number (signText negative ++ text)

/-- A whole number that is not too long is written as its numeral. -/
theorem isNumeral_integer {value : Int} (short : Integer.isTooLong value = false) :
    IsNumeral (.whole value) (Integer.render value) := by
  have length := Integer.length_toDigits_le short
  have text : Integer.render value =
      signText (decide (value < 0)) ++ Nat.toDigits 10 value.natAbs := by
    by_cases negative : value < 0
    · simp [Integer.render, signText, negative]
    · simp [Integer.render, signText, negative]
  have valueIs : (if decide (value < 0) = true then -(value.natAbs : Int) else value.natAbs) =
      value := by
    by_cases negative : value < 0
    · simp only [negative, decide_true, if_true]
      omega
    · simp only [negative, decide_false, Bool.false_eq_true, if_false]
      omega
  rw [text]
  apply IsNumeral.intro
  intro rest ends
  rw [readMagnitude_whole length ends, valueIs]

/-- However a decimal is laid out, it is written as a numeral of its double. -/
theorem isNumeral_decimal (layout : Decimal.Layout) (value : Decimal) :
    IsNumeral (.real value.toBinary64) (value.render layout) := by
  obtain ⟨negative, digits, exponent⟩ := value
  have same := Decimal.toBinary64_trim negative digits exponent
  have noPower := @Decimal.trim_of_zero digits exponent
  rw [← same, Decimal.render]
  generalize Decimal.trim digits exponent = trimmed at noPower ⊢
  obtain ⟨number, power⟩ := trimmed
  simp only
  split
  · apply IsNumeral.intro negative
    intro rest ends
    exact readMagnitude_positional noPower ends
  · apply IsNumeral.intro negative
    intro rest ends
    exact readMagnitude_scientific _ power ends

/-- A finite double is written as its numeral. -/
theorem isNumeral_double (value : Binary64.Finite) :
    IsNumeral (.real (.finite value)) value.render := by
  rw [← Binary64.Finite.toBinary64_shortest value]
  exact isNumeral_decimal .standard value.shortest

theorem endsNumber_nil : EndsNumber [] := ⟨nofun, nofun, nofun⟩

/-- What is read as a number begins with a digit. -/
theorem exists_digit_of_readMagnitude {text : List Char} {found : Except Problem Number × List Char}
    (reads : readMagnitude negative text = some found) :
    ∃ digit behind, text = digit :: behind ∧ digit.isDigit = true := by
  rw [readMagnitude] at reads
  split at reads
  · cases reads
  next whole behind wholeIs =>
    simp only [wholePart] at wholeIs
    split at wholeIs
    · exact ⟨'0', _, rfl, rfl⟩
    next char others _ =>
      split at wholeIs
      next digit => exact ⟨char, others, rfl, digit⟩
      · cases wholeIs
    · cases wholeIs

/-- No word begins like a number. -/
theorem readWord_number {digit : Char} (isDigit : digit.isDigit = true) (behind : List Char) :
    readWord (signText negative ++ digit :: behind) = none := by
  have other (char : Char) (noDigit : char.isDigit = false) : (char == digit) = false := by
    rw [beq_eq_false_iff_ne]
    rintro rfl
    rw [isDigit] at noDigit
    cases noDigit
  have n := other 'n' rfl
  have t := other 't' rfl
  have f := other 'f' rfl
  have N := other 'N' rfl
  have I := other 'I' rfl
  have minus := other '-' rfl
  cases negative with
  | false =>
      simp [readWord, words, signText, List.isPrefixOf, n, t, f, N, I, minus]
  | true =>
      simp [readWord, words, signText, List.isPrefixOf, I]

namespace IsNumeral

variable {number : Number} {text : List Char}

/-- A numeral begins with a digit behind its sign. -/
theorem exists_digit (numeral : IsNumeral number text) :
    ∃ negative digit behind, text = signText negative ++ digit :: behind ∧
      digit.isDigit = true ∧ ∀ rest, EndsNumber rest →
        readMagnitude negative (digit :: behind ++ rest) = some (.ok number, rest) := by
  cases numeral with
  | @intro negative text reads =>
      have alone := reads [] endsNumber_nil
      rw [List.append_nil] at alone
      obtain ⟨digit, behind, rfl, isDigit⟩ := exists_digit_of_readMagnitude alone
      exact ⟨negative, digit, behind, rfl, isDigit, reads⟩

/-- A numeral is read as its number. -/
theorem readAtom_eq (numeral : IsNumeral number text) (ends : EndsNumber rest) :
    readAtom (text ++ rest) = .ok (.number number, rest) := by
  obtain ⟨negative, digit, behind, rfl, isDigit, reads⟩ := numeral.exists_digit
  have noWord : readWord (signText negative ++ digit :: behind ++ rest) = none := by
    rw [List.append_assoc, List.cons_append]
    exact readWord_number isDigit _
  have signed : readNumber (signText negative ++ digit :: behind ++ rest) =
      readMagnitude negative (digit :: behind ++ rest) := by
    rw [List.append_assoc]
    cases negative with
    | true => rfl
    | false =>
        change readNumber (digit :: behind ++ rest) = _
        simp only [readNumber]
        split
        next same =>
          cases (List.cons.inj same).1
          cases isDigit
        next => rfl
  rw [readAtom, noWord]
  simp only [signed, reads rest ends]

end IsNumeral

end Json

end CriticalCss
