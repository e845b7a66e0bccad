import CriticalCss.Number.Shortest
import Mathlib.Algebra.Group.Nat.Defs

/-!
# Decimals that read back

Rounding looks at the value of a quotient and not at how it is written, and it leaves a double as it
is.  A decimal therefore reads as the same double however its digits are shifted, and whatever a
double is written as, shortened or in full, reads back as the double.
-/

namespace CriticalCss

namespace Binary64

variable {negative : Bool} {numerator denominator factor scale : Nat}

/-! ## Rounding a quotient -/

/-- The units are a power of two.  Its exponent is named, so that nothing computes the power. -/
theorem unitsPerOne_eq {power : Nat} (isPower : power = 1074) : unitsPerOne = 2 ^ power := by
  delta unitsPerOne
  rw [← isPower, Nat.pow_eq]

theorem unitsPerOne_pos : 0 < unitsPerOne := by
  obtain ⟨power, isPower⟩ : ∃ power, power = 1074 := ⟨_, rfl⟩
  rw [unitsPerOne_eq isPower]
  exact Nat.two_pow_pos power

theorem roundHalfEven_mul_right (positive : 0 < factor) :
    roundHalfEven (numerator * factor) (denominator * factor) =
      roundHalfEven numerator denominator := by
  have twice : 2 * (numerator % denominator * factor) = 2 * (numerator % denominator) * factor :=
    (Nat.mul_assoc _ _ _).symm
  simp only [roundHalfEven, Nat.mul_div_mul_right _ _ positive, Nat.mul_mod_mul_right, twice,
    Nat.mul_lt_mul_right positive]

/-- A quotient that is whole is left alone. -/
theorem roundHalfEven_of_whole (positive : 0 < denominator) :
    roundHalfEven (numerator * denominator) denominator = numerator := by
  simp [roundHalfEven, Nat.mul_div_cancel _ positive, positive]

/-- Less than a half is rounded to nothing. -/
theorem roundHalfEven_of_small (small : 2 * numerator < denominator) :
    roundHalfEven numerator denominator = 0 := by
  have below : numerator < denominator := by omega
  simp [roundHalfEven, Nat.div_eq_of_lt below, Nat.mod_eq_of_lt below, small]

theorem roundRatio_mul_right (positive : 0 < factor) :
    roundRatio negative (numerator * factor) (denominator * factor) =
      roundRatio negative numerator denominator := by
  have units : numerator * factor * unitsPerOne = numerator * unitsPerOne * factor :=
    Nat.mul_right_comm _ _ _
  have grid (scale : Nat) : denominator * factor * Nat.pow 2 scale =
      denominator * Nat.pow 2 scale * factor :=
    Nat.mul_right_comm _ _ _
  simp only [roundRatio, units, grid, Nat.mul_div_mul_right _ _ positive,
    roundHalfEven_mul_right positive]

/-- Two quotients of the same value are rounded alike. -/
theorem roundRatio_congr {otherNumerator otherDenominator : Nat} (positive : 0 < denominator)
    (alsoPositive : 0 < otherDenominator)
    (same : numerator * otherDenominator = otherNumerator * denominator) :
    roundRatio negative numerator denominator =
      roundRatio negative otherNumerator otherDenominator := by
  rw [← roundRatio_mul_right alsoPositive, same, Nat.mul_comm denominator,
    roundRatio_mul_right positive]

/-! ## Doubles are their own rounding -/

theorem pack_eq (value : Finite) :
    pack value.negative value.significand value.scale = .finite value := by
  rw [pack, dif_pos value.canonical]

theorem pack_of_scale_gt (tooLarge : 2045 < scale) (significand : Nat) :
    pack negative significand scale = .infinite negative := by
  have noFit : ¬(significand < Nat.pow 2 53 ∧ scale ≤ 2045 ∧
      (scale = 0 ∨ Nat.pow 2 52 ≤ significand)) := by
    rintro ⟨_, fits, _⟩
    omega
  rw [pack, dif_neg noFit]

/-- The scale of a double is the least one that its units fit. -/
theorem scaleFor_units (value : Finite) : scaleFor value.units = value.scale := by
  obtain ⟨fits, _, lowest | full⟩ := value.canonical
  · have units : value.units = value.significand := by
      simp [Finite.units, lowest]
    rw [scaleFor, units, lowest]
    by_cases isZero : value.significand = 0
    · simp [isZero]
    · have small : Nat.log2 value.significand < 53 := (Nat.log2_lt isZero).mpr fits
      omega
  · have positive : 0 < value.significand := Nat.lt_of_lt_of_le (Nat.two_pow_pos 52) full
    have nonzero : value.units ≠ 0 :=
      Nat.ne_of_gt (Nat.mul_pos positive (Nat.two_pow_pos value.scale))
    have low : 2 ^ (52 + value.scale) ≤ value.units := by
      rw [Nat.pow_add]
      exact Nat.mul_le_mul_right _ full
    have high : value.units < 2 ^ (52 + value.scale + 1) := by
      rw [show 52 + value.scale + 1 = 53 + value.scale by omega, Nat.pow_add]
      exact Nat.mul_lt_mul_of_pos_right fits (Nat.pow_pos (by decide))
    rw [scaleFor, (Nat.log2_eq_iff nonzero).mpr ⟨low, high⟩]
    omega

/-- A double is rounded to itself. -/
theorem roundRatio_units (value : Finite) :
    roundRatio value.negative value.units unitsPerOne = .finite value := by
  have quotient : value.units * unitsPerOne / unitsPerOne = value.units :=
    Nat.mul_div_cancel _ unitsPerOne_pos
  have grid : value.units * unitsPerOne =
      value.significand * (unitsPerOne * Nat.pow 2 value.scale) := by
    rw [Finite.units, Nat.mul_assoc, Nat.mul_comm (Nat.pow 2 value.scale)]
  have significand : roundHalfEven (value.units * unitsPerOne)
      (unitsPerOne * Nat.pow 2 value.scale) = value.significand := by
    rw [grid]
    exact roundHalfEven_of_whole (Nat.mul_pos unitsPerOne_pos (Nat.pow_pos (by decide)))
  have noCarry : value.significand ≠ Nat.pow 2 53 := Nat.ne_of_lt value.canonical.1
  simp only [roundRatio, quotient, scaleFor_units, significand, if_neg noCarry, pack_eq]

theorem roundRatio_zero (positive : 0 < denominator) :
    roundRatio negative 0 denominator = zero negative := by
  have noScale : scaleFor (0 * unitsPerOne / denominator) = 0 := by simp [scaleFor]
  have nothing : roundHalfEven (0 * unitsPerOne) (denominator * Nat.pow 2 0) = 0 :=
    roundHalfEven_of_small (by simpa using positive)
  have noCarry : (0 : Nat) ≠ Nat.pow 2 53 := by decide
  simp only [roundRatio, noScale, nothing, if_neg noCarry, zero]

/-! ## Beyond the range of doubles -/

/-- Whole numbers from `2 ^ 1100` on are beyond all doubles. -/
theorem roundRatio_of_large {atLeast : Nat} (far : 1100 ≤ atLeast)
    (large : 2 ^ atLeast ≤ numerator) : roundRatio negative numerator 1 = .infinite negative := by
  obtain ⟨power, isPower⟩ : ∃ power, power = 1074 := ⟨_, rfl⟩
  have units : 2 ^ (atLeast + power) ≤ numerator * unitsPerOne := by
    rw [unitsPerOne_eq isPower, Nat.pow_add]
    exact Nat.mul_le_mul_right _ large
  have nonzero : numerator * unitsPerOne ≠ 0 :=
    Nat.ne_of_gt (Nat.lt_of_lt_of_le (Nat.two_pow_pos _) units)
  have tooLarge : 2045 < scaleFor (numerator * unitsPerOne / 1) := by
    have log : atLeast + power ≤ Nat.log2 (numerator * unitsPerOne) :=
      (Nat.le_log2 nonzero).mpr units
    rw [Nat.div_one, scaleFor]
    omega
  simp only [roundRatio, pack_of_scale_gt tooLarge,
    pack_of_scale_gt (Nat.lt_succ_of_lt tooLarge), ite_self]

/-- What is less than half a unit of the lowest scale is rounded to zero. -/
theorem roundRatio_of_small (small : 2 * (numerator * unitsPerOne) < denominator) :
    roundRatio negative numerator denominator = zero negative := by
  have below : numerator * unitsPerOne < denominator := by omega
  have noScale : scaleFor (numerator * unitsPerOne / denominator) = 0 := by
    rw [Nat.div_eq_of_lt below]
    simp [scaleFor]
  have nothing : roundHalfEven (numerator * unitsPerOne) (denominator * Nat.pow 2 0) = 0 :=
    roundHalfEven_of_small (by simpa using small)
  have noCarry : (0 : Nat) ≠ Nat.pow 2 53 := by decide
  simp only [roundRatio, noScale, nothing, if_neg noCarry, zero]

end Binary64

namespace Decimal

/-- The numerator of a decimal that is written as a quotient. -/
def numerator (value : Decimal) : Nat := value.digits * 10 ^ value.exponent.toNat

/-- The denominator of a decimal that is written as a quotient. -/
def denominator (value : Decimal) : Nat := 10 ^ (-value.exponent).toNat

theorem denominator_pos (value : Decimal) : 0 < value.denominator := Nat.pow_pos (by decide)

/-- Ten is more than eight, and less than sixteen. -/
theorem two_pow_le_ten_pow (power : Nat) : 2 ^ (3 * power) ≤ 10 ^ power := by
  rw [Nat.pow_mul]
  exact Nat.pow_le_pow_left (by decide) power

/-- A decimal reads as the rounded quotient: the exponents that are settled apart are out of the
range of doubles. -/
theorem toBinary64_eq_roundRatio (value : Decimal) :
    value.toBinary64 = Binary64.roundRatio value.negative value.numerator value.denominator := by
  obtain ⟨negative, digits, exponent⟩ := value
  by_cases isZero : digits = 0
  · have nothing : numerator ⟨negative, digits, exponent⟩ = 0 := by simp [numerator, isZero]
    rw [nothing, Binary64.roundRatio_zero (denominator_pos _), toBinary64, if_pos isZero]
  rw [toBinary64, if_neg isZero]
  cases exponent with
  | ofNat power =>
      have quotient : numerator ⟨negative, digits, .ofNat power⟩ = digits * Nat.pow 10 power := rfl
      have whole : denominator ⟨negative, digits, .ofNat power⟩ = 1 := by
        simp [denominator]
      rw [quotient, whole]
      by_cases tooLarge : 400 < power
      · have large : 2 ^ (3 * power) ≤ digits * Nat.pow 10 power :=
          calc 2 ^ (3 * power) ≤ 10 ^ power := two_pow_le_ten_pow power
            _ ≤ digits * 10 ^ power := Nat.le_mul_of_pos_left _ (Nat.pos_of_ne_zero isZero)
        have far : 1100 ≤ 3 * power := by omega
        simp only [if_pos tooLarge, Binary64.roundRatio_of_large far large]
      · simp only [if_neg tooLarge]
  | negSucc power =>
      have quotient : numerator ⟨negative, digits, .negSucc power⟩ = digits := by
        simp [numerator]
      have below : denominator ⟨negative, digits, .negSucc power⟩ = Nat.pow 10 (power + 1) := rfl
      rw [quotient, below]
      by_cases tooSmall : Nat.log2 digits + 400 < power
      · obtain ⟨unit, isUnit⟩ : ∃ power, power = 1074 := ⟨_, rfl⟩
        have small : 2 * (digits * Binary64.unitsPerOne) < Nat.pow 10 (power + 1) :=
          calc 2 * (digits * Binary64.unitsPerOne)
              < 2 * (2 ^ (Nat.log2 digits + 1) * 2 ^ unit) := by
                rw [Binary64.unitsPerOne_eq isUnit]
                refine Nat.mul_lt_mul_of_pos_left ?_ (by decide)
                exact Nat.mul_lt_mul_of_pos_right Nat.lt_log2_self (Nat.two_pow_pos unit)
            _ = 2 ^ (Nat.log2 digits + 1 + unit + 1) := by
                rw [← Nat.pow_add, ← Nat.pow_succ']
            _ ≤ 2 ^ (3 * (power + 1)) := Nat.pow_le_pow_right (by decide) (by omega)
            _ ≤ 10 ^ (power + 1) := two_pow_le_ten_pow (power + 1)
        simp only [if_pos tooSmall, Binary64.roundRatio_of_small small]
      · simp only [if_neg tooSmall]

/-- A zero more at the end of the digits, and a power of ten less, change nothing. -/
theorem toBinary64_shift (negative : Bool) (digits : Nat) (exponent : Int) (count : Nat) :
    toBinary64 ⟨negative, digits * 10 ^ count, exponent - count⟩ =
      toBinary64 ⟨negative, digits, exponent⟩ := by
  rw [toBinary64_eq_roundRatio, toBinary64_eq_roundRatio]
  refine Binary64.roundRatio_congr (denominator_pos _) (denominator_pos _) ?_
  have powers : count + (exponent - count).toNat + (-exponent).toNat =
      exponent.toNat + (-(exponent - count)).toNat := by omega
  calc digits * 10 ^ count * 10 ^ (exponent - count).toNat * 10 ^ (-exponent).toNat
      = digits * 10 ^ (count + (exponent - count).toNat + (-exponent).toNat) := by
        simp only [Nat.pow_add, Nat.mul_assoc]
    _ = digits * 10 ^ exponent.toNat * 10 ^ (-(exponent - count)).toNat := by
        rw [powers, Nat.pow_add, Nat.mul_assoc]

/-- Trimming the zeros at the end of the digits changes nothing. -/
theorem toBinary64_trim (negative : Bool) (digits : Nat) (exponent : Int) :
    toBinary64 ⟨negative, (trim digits exponent).1, (trim digits exponent).2⟩ =
      toBinary64 ⟨negative, digits, exponent⟩ := by
  fun_induction trim digits exponent with
  | case1 exponent => simp [toBinary64]
  | case2 digits exponent _ endsInZero ih =>
      have shifted := toBinary64_shift negative (digits / 10) (exponent + 1) 1
      have whole : digits / 10 * 10 ^ 1 = digits := by omega
      have power : exponent + 1 - (1 : Nat) = exponent := by omega
      rw [whole, power] at shifted
      rw [ih, shifted]
  | case3 => rfl

/-- A decimal that is trimmed to no digits is trimmed to no power of ten. -/
theorem trim_of_zero {digits : Nat} {exponent : Int} (nothing : (trim digits exponent).1 = 0) :
    (trim digits exponent).2 = 0 := by
  fun_induction trim digits exponent with
  | case1 => rfl
  | case2 _ _ _ _ ih => exact ih nothing
  | case3 _ _ nonzero => exact absurd nothing nonzero

end Decimal

namespace Binary64.Finite

/-- The decimal that is equal to a double reads back as the double. -/
theorem toBinary64_exactDecimal (value : Finite) :
    value.exactDecimal.toBinary64 = .finite value := by
  have ofPower (power : Nat) :
      Decimal.toBinary64 ⟨value.negative, value.units * Nat.pow 5 power, -(power : Int)⟩ =
        roundRatio value.negative value.units (Nat.pow 2 power) := by
    rw [Decimal.toBinary64_eq_roundRatio]
    refine roundRatio_congr (Decimal.denominator_pos _) (Nat.two_pow_pos power) ?_
    simp only [Decimal.numerator, Decimal.denominator, Int.toNat_neg_natCast, Int.neg_neg,
      Int.toNat_natCast, Nat.pow_zero, Nat.mul_one, Nat.mul_assoc, Nat.pow_eq, ← Nat.mul_pow]
  obtain ⟨power, isPower⟩ : ∃ power, power = 1074 := ⟨_, rfl⟩
  have exponent : (-1074 : Int) = -(power : Int) := by omega
  rw [← roundRatio_units value, unitsPerOne_eq isPower, exactDecimal, exponent, ← isPower]
  exact ofPower power

/-- The decimal that a double is written as reads back as the double. -/
theorem toBinary64_shortest (value : Finite) : value.shortest.toBinary64 = .finite value := by
  let onGrid (extra : Nat) := (value.neighbours (value.leadingPower - extra)).find? value.isReadFrom
  change (((List.range 17).findSome? onGrid).getD value.exactDecimal).toBinary64 = .finite value
  cases found : (List.range 17).findSome? onGrid with
  | none => exact toBinary64_exactDecimal value
  | some candidate =>
      obtain ⟨extra, _, isCandidate⟩ := List.exists_of_findSome?_eq_some found
      have readBack : value.isReadFrom candidate = true := List.find?_some isCandidate
      exact of_decide_eq_true readBack

end Binary64.Finite

end CriticalCss
