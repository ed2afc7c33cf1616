/-
This file proves what the arithmetic of decimal numbers keeps of the fractions they stand for.

A result is rounded to twenty-eight digits. A number that has no more keeps its value, and so does
one whose further digits are zeros. A number that has more may lose something, but rounding never
brings it below a bound that has no more digits than are kept.
-/

import Bolt11.Decimal
import Mathlib.Algebra.Order.Field.Rat
import Mathlib.Tactic.FieldSimp
import Mathlib.Tactic.Ring

namespace Bolt11.Decimal

/-! ### Decimal numbers as fractions -/

/-- The fraction that a number stands for. -/
def value (number : Decimal) : ℚ := number.coefficient * (10 : ℚ) ^ number.exponent

theorem value_eq_ratio (number : Decimal) :
    number.value = (number.numerator : ℚ) / number.denominator := by
  obtain ⟨coefficient, exponent⟩ := number
  simp only [value, numerator, denominator, Nat.pow_eq, Nat.cast_mul, Nat.cast_pow,
    Nat.cast_ofNat]
  rcases Int.le_total 0 exponent with whole | fraction
  · obtain ⟨places, rfl⟩ := Int.eq_ofNat_of_zero_le whole
    have none_below : (-(places : Int)).toNat = 0 := by omega
    rw [none_below, Int.toNat_natCast, zpow_natCast, pow_zero, div_one]
  · obtain ⟨places, negated⟩ := Int.eq_ofNat_of_zero_le (Int.neg_nonneg_of_nonpos fraction)
    obtain rfl : exponent = -(places : Int) := by omega
    have none_above : (-(places : Int)).toNat = 0 := by omega
    rw [none_above, neg_neg, Int.toNat_natCast, zpow_neg, zpow_natCast, pow_zero, mul_one,
      div_eq_mul_inv]

theorem denominator_pos (number : Decimal) : 0 < number.denominator :=
  Nat.pow_pos (by decide)

/-- A comparison with a natural number is one of fractions. -/
theorem atMost_iff {number : Decimal} {bound : Nat} :
    number.atMost bound = true ↔ number.value ≤ bound := by
  have positive : (0 : ℚ) < number.denominator := Nat.cast_pos.mpr number.denominator_pos
  rw [atMost, decide_eq_true_eq, value_eq_ratio, div_le_iff₀ positive]
  exact_mod_cast Iff.rfl

/-- A number is whole if it stands for a natural number, and that is the number without its
fraction. -/
theorem whole_iff {number : Decimal} {whole : Nat} :
    (number.isWhole = true ∧ number.floor = whole) ↔ number.value = whole := by
  have nonzero : (number.denominator : ℚ) ≠ 0 :=
    Nat.cast_ne_zero.mpr (Nat.ne_of_gt number.denominator_pos)
  have product : number.value = whole ↔ number.numerator = whole * number.denominator := by
    rw [value_eq_ratio, div_eq_iff nonzero]
    exact_mod_cast Iff.rfl
  rw [product, isWhole, beq_iff_eq, floor]
  constructor
  · rintro ⟨divides, rfl⟩
    exact (Nat.div_mul_cancel (Nat.dvd_of_mod_eq_zero divides)).symm
  · intro same
    rw [same]
    exact ⟨Nat.mul_mod_left _ _, Nat.mul_div_cancel _ number.denominator_pos⟩

/-- A number with places behind the point. -/
theorem value_of_places (coefficient places : Nat) :
    value ⟨coefficient, -(places : Int)⟩ = coefficient / (10 : ℚ) ^ places := by
  rw [value, zpow_neg, zpow_natCast, div_eq_mul_inv]

/-- Zeros at the end of the coefficient can be moved into the exponent. -/
theorem value_zeros (coefficient zeros : Nat) (exponent : Int) :
    value ⟨coefficient * 10 ^ zeros, exponent⟩ = value ⟨coefficient, exponent + zeros⟩ := by
  simp only [value, Nat.cast_mul, Nat.cast_pow, Nat.cast_ofNat]
  rw [zpow_add₀ (by norm_num : (10 : ℚ) ≠ 0), zpow_natCast]
  ring

/-! ### Rounding that loses nothing -/

theorem digitCount_le {number places : Nat} (positive : 0 < places) (small : number < 10 ^ places) :
    digitCount number ≤ places := by
  induction places generalizing number with
  | zero => exact absurd positive (Nat.lt_irrefl 0)
  | succ places inductionHypothesis =>
    rw [digitCount]
    split
    · exact positive
    · rename_i several
      rw [pow_succ'] at small
      have tenth : number / 10 < 10 ^ places := Nat.div_lt_of_lt_mul small
      have more : 0 < places := by
        rcases Nat.eq_zero_or_pos places with rfl | more
        · omega
        · exact more
      exact Nat.succ_le_succ (inductionHypothesis more tenth)

theorem roundedQuotient_of_dvd {dividend divisor : Nat} (positive : 0 < divisor)
    (divides : divisor ∣ dividend) : roundedQuotient dividend divisor = dividend / divisor := by
  rw [roundedQuotient, Nat.mod_eq_zero_of_dvd divides]
  exact if_pos positive

theorem rounded_of_small {coefficient : Nat} (small : coefficient < 10 ^ precision)
    (exponent : Int) : rounded ⟨coefficient, exponent⟩ = ⟨coefficient, exponent⟩ := by
  have digits : digitCount coefficient ≤ precision := digitCount_le (by decide) small
  rw [rounded, Nat.sub_eq_zero_of_le digits]
  rfl

/-- Rounding a number whose digits past the twenty-eighth are zeros keeps its value. -/
theorem value_rounded {coefficient : Nat} (zeros : Nat) {exponent : Int}
    (small : coefficient * 10 ^ zeros < 10 ^ (precision + zeros)) :
    (rounded ⟨coefficient * 10 ^ zeros, exponent⟩).value =
      value ⟨coefficient * 10 ^ zeros, exponent⟩ := by
  have digits : digitCount (coefficient * 10 ^ zeros) ≤ precision + zeros :=
    digitCount_le (Nat.add_pos_left (by decide) zeros) small
  rw [rounded]
  generalize excessIs : digitCount (coefficient * 10 ^ zeros) - precision = excess
  have within : excess ≤ zeros := by omega
  obtain ⟨kept, rfl⟩ := Nat.exists_eq_add_of_le within
  by_cases nothing : excess = 0
  · simp only [nothing, if_true]
  · have split : coefficient * 10 ^ (excess + kept) = coefficient * 10 ^ kept * 10 ^ excess := by
      ring
    have positive : 0 < 10 ^ excess := Nat.pow_pos (by decide)
    simp only [nothing, if_false, Nat.pow_eq]
    rw [split, roundedQuotient_of_dvd positive (Nat.dvd_mul_left _ _),
      Nat.mul_div_cancel _ positive]
    exact (value_zeros (coefficient * 10 ^ kept) excess exponent).symm

/-! ### Rounding above a bound -/

theorem value_le_value {coefficient other : Nat} (least : coefficient ≤ other) (exponent : Int) :
    value ⟨coefficient, exponent⟩ ≤ value ⟨other, exponent⟩ :=
  mul_le_mul_of_nonneg_right (Nat.cast_le.mpr least) (zpow_nonneg (by norm_num) exponent)

theorem le_roundedQuotient (dividend divisor : Nat) :
    dividend / divisor ≤ roundedQuotient dividend divisor := by
  unfold roundedQuotient
  simp only
  split
  · exact Nat.le_refl _
  · split
    · exact Nat.le_succ _
    · split
      · exact Nat.le_refl _
      · exact Nat.le_succ _

/-- A number that has to be rounded keeps all its digits but the last ones, so it stays at least
the least of such numbers. -/
theorem value_power_le_rounded {coefficient : Nat} (large : 10 ^ precision ≤ coefficient)
    (exponent : Int) :
    value ⟨10 ^ precision, exponent⟩ ≤ (rounded ⟨coefficient, exponent⟩).value := by
  rw [rounded]
  generalize excessIs : digitCount coefficient - precision = excess
  by_cases nothing : excess = 0
  · simp only [nothing, if_true]
    exact value_le_value large exponent
  · obtain ⟨dropped, rfl⟩ := Nat.exists_eq_succ_of_ne_zero nothing
    have low : 10 ^ (precision + dropped) ≤ coefficient := by
      by_contra small
      have digits := digitCount_le (Nat.add_pos_left (by decide) dropped) (Nat.not_le.mp small)
      omega
    have kept : 10 ^ (precision - 1) ≤ roundedQuotient coefficient (10 ^ (dropped + 1)) := by
      refine Nat.le_trans ?_ (le_roundedQuotient _ _)
      rw [Nat.le_div_iff_mul_le (Nat.pow_pos (by decide)), ← pow_add]
      exact Nat.le_trans (Nat.pow_le_pow_right (by decide) (by rw [precision]; omega)) low
    have digits : 10 ^ precision ≤
        roundedQuotient coefficient (10 ^ (dropped + 1)) * 10 ^ (dropped + 1) := by
      calc 10 ^ precision = 10 ^ (precision - 1) * 10 ^ 1 := rfl
        _ ≤ roundedQuotient coefficient (10 ^ (dropped + 1)) * 10 ^ (dropped + 1) :=
          Nat.mul_le_mul kept (Nat.pow_le_pow_right (by decide) (by omega))
    simp only [nothing, if_false, Nat.pow_eq]
    rw [← value_zeros]
    exact value_le_value digits exponent

/-- Rounding brings no number below a bound that has no more digits than are kept. -/
theorem value_le_rounded {bound coefficient : Nat} (least : bound ≤ coefficient)
    (fits : bound ≤ 10 ^ precision) (exponent : Int) :
    value ⟨bound, exponent⟩ ≤ (rounded ⟨coefficient, exponent⟩).value := by
  by_cases small : coefficient < 10 ^ precision
  · rw [rounded_of_small small]
    exact value_le_value least exponent
  · exact (value_le_value fits exponent).trans
      (value_power_le_rounded (Nat.not_lt.mp small) exponent)

end Bolt11.Decimal
