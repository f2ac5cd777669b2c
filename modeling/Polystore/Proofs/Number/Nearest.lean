import Mathlib.Algebra.Order.Field.Basic
import Mathlib.Algebra.Order.Field.Power
import Mathlib.Data.Rat.Cast.Order
import Mathlib.Tactic.FieldSimp
import Mathlib.Tactic.Linarith
import Mathlib.Tactic.NormNum
import Mathlib.Tactic.Ring
import Polystore.Number.Binary

/-!
Rounding to binary numbers. The number next to a ratio depends on the number that the ratio is and not on how it is
written; a ratio that is a finite number of the width rounds to it; and what is far too large or far too small for the
width rounds to infinity or to zero.
-/
namespace Polystore

namespace Rounding

/-- A quotient is rounded as it is when both its numbers are multiplied. -/
theorem divide_mul_mul (tie : Tie) (a b : Nat) {factor : Nat} (positive : 0 < factor) :
    divide tie (a * factor) (b * factor) = divide tie a b := by
  have twice : 2 * (a % b * factor) = 2 * (a % b) * factor := (Nat.mul_assoc ..).symm
  have more : b * factor < 2 * (a % b) * factor ↔ b < 2 * (a % b) := Nat.mul_lt_mul_right positive
  have half : 2 * (a % b) * factor = b * factor ↔ 2 * (a % b) = b := Nat.mul_left_inj positive.ne'
  have goes : goesUp tie (a / b) (a % b * factor) (b * factor) = goesUp tie (a / b) (a % b) b := by
    rw [Bool.eq_iff_iff]
    simp only [goesUp, Bool.or_eq_true, Bool.and_eq_true, decide_eq_true_eq, twice, more, half]
  rw [divide, divide, Nat.mul_div_mul_right a b positive, Nat.mul_mod_mul_right, goes]

/-- Quotients of the same number are rounded to the same. -/
theorem divide_congr (tie : Tie) {a b c d : Nat} (positiveB : 0 < b) (positiveD : 0 < d) (same : a * d = c * b) :
    divide tie a b = divide tie c d := by
  rw [← divide_mul_mul tie a b positiveD, same, Nat.mul_comm b d, divide_mul_mul tie c d positiveB]

/-- What is below one half is rounded to zero. -/
theorem divide_of_small (tie : Tie) {a b : Nat} (small : 2 * a < b) : divide tie a b = 0 := by
  have below : a < b := by omega
  have floor : a / b = 0 := Nat.div_eq_of_lt below
  have remainder : a % b = a := Nat.mod_eq_of_lt below
  have stays : ¬ b < 2 * a := by omega
  have unequal : ¬ 2 * a = b := by omega
  simp [divide, goesUp, floor, remainder, stays, unequal]

end Rounding

namespace Binary

variable {width : FloatWidth}

theorem leadingBit_eq (width : FloatWidth) : (width.leadingBit : ℚ) = 2 ^ (width.fractionBits : ℤ) := by
  cases width <;> norm_num [FloatWidth.leadingBit, FloatWidth.fractionBits]

theorem inUnits_pos {den : Nat} (positive : 0 < den) (num : Nat) (exponent : Int) :
    0 < (inUnits num den exponent).2 := by
  rw [inUnits]
  split
  · rw [Nat.shiftLeft_eq]
    positivity
  · exact positive

/-- In units of a power of two a ratio is divided by the power. -/
theorem inUnits_eq (num den : Nat) (exponent : Int) :
    ((inUnits num den exponent).1 : ℚ) / (inUnits num den exponent).2 = num / den / 2 ^ exponent := by
  rw [inUnits]
  split
  · rename_i whole
    have power : (2 : ℚ) ^ exponent = 2 ^ exponent.toNat := by
      rw [← zpow_natCast, Int.toNat_of_nonneg whole]
    rw [power, Nat.shiftLeft_eq]
    push_cast
    rw [div_div]
  · rename_i negative
    have power : (2 : ℚ) ^ exponent = (2 ^ (-exponent).toNat)⁻¹ := by
      rw [← zpow_natCast, Int.toNat_of_nonneg (by omega), zpow_neg, inv_inv]
    rw [power, Nat.shiftLeft_eq]
    push_cast
    rw [div_inv_eq_mul, div_mul_eq_mul_div]

/-- The exponent of the last bit of what is next to a number: the least that leaves one bit more than the fraction
holds. -/
structure IsLast (width : FloatWidth) (number : ℚ) (exponent : Int) : Prop where
  unit : width.unitExponent ≤ exponent
  below : number < 2 * width.leadingBit * 2 ^ exponent
  above : width.unitExponent < exponent → width.leadingBit * 2 ^ exponent ≤ number

theorem IsLast.unique {number : ℚ} {e f : Int} (first : IsLast width number e) (second : IsLast width number f) :
    e = f := by
  have notLess {e f : Int} (first : IsLast width number e) (second : IsLast width number f) : ¬ e < f := by
    intro less
    have lower := second.above (lt_of_le_of_lt first.unit less)
    have upper := first.below
    have powers : (2 : ℚ) ^ (e + 1) ≤ 2 ^ f := zpow_le_zpow_right₀ (by norm_num) less
    rw [zpow_add_one₀ (by norm_num)] at powers
    have leading : (0 : ℚ) < width.leadingBit := by
      rw [leadingBit_eq]
      positivity
    nlinarith
  have := notLess first second
  have := notLess second first
  omega

/-- Where a ratio stands among the powers of two, by the bits of its numbers. -/
theorem ratio_bounds {num den : Nat} (present : 0 < num) (positive : 0 < den) :
    (2 : ℚ) ^ ((num.log2 : ℤ) - den.log2 - 1) ≤ num / den ∧ (num : ℚ) / den < 2 ^ ((num.log2 : ℤ) - den.log2 + 1) := by
  have leastNum : ((2 : ℚ) ^ (num.log2 : ℤ)) ≤ num := by exact_mod_cast Nat.log2_self_le present.ne'
  have mostNum : (num : ℚ) < 2 ^ ((num.log2 : ℤ) + 1) := by exact_mod_cast Nat.lt_log2_self (n := num)
  have leastDen : ((2 : ℚ) ^ (den.log2 : ℤ)) ≤ den := by exact_mod_cast Nat.log2_self_le positive.ne'
  have mostDen : (den : ℚ) < 2 ^ ((den.log2 : ℤ) + 1) := by exact_mod_cast Nat.lt_log2_self (n := den)
  have two : (2 : ℚ) ≠ 0 := by norm_num
  have positiveQ : (0 : ℚ) < den := by exact_mod_cast positive
  constructor
  · rw [le_div_iff₀ positiveQ, sub_sub, zpow_sub₀ two, div_mul_eq_mul_div, div_le_iff₀ (by positivity)]
    exact mul_le_mul leastNum mostDen.le positiveQ.le (by positivity)
  · rw [div_lt_iff₀ positiveQ, sub_add_eq_add_sub, zpow_sub₀ two, div_mul_eq_mul_div, lt_div_iff₀ (by positivity)]
    exact mul_lt_mul mostNum leastDen (by positivity) (by positivity)

/-- The exponent is found from the bits of numerator and denominator. -/
theorem isLast_lastExponent {num den : Nat} (present : 0 < num) (positive : 0 < den) :
    IsLast width (num / den) (lastExponent width num den) := by
  obtain ⟨least, most⟩ := ratio_bounds present positive
  have two : (2 : ℚ) ≠ 0 := by norm_num
  have leading := leadingBit_eq width
  have powers {e f : ℤ} (less : e ≤ f) : (2 : ℚ) ^ e ≤ 2 ^ f := zpow_le_zpow_right₀ (by norm_num) less
  rw [lastExponent]
  generalize estimated : max width.unitExponent ((num.log2 : ℤ) - den.log2 - 1 - width.fractionBits) = estimate
  have units := inUnits_eq num den estimate
  have positiveUnits : (0 : ℚ) < (inUnits num den estimate).2 := by exact_mod_cast inUnits_pos positive num estimate
  have reaches : 2 * width.leadingBit ≤ (inUnits num den estimate).1 / (inUnits num den estimate).2 ↔
      2 * width.leadingBit * (2 : ℚ) ^ estimate ≤ num / den := by
    rw [Nat.le_div_iff_mul_le (inUnits_pos positive num estimate), ← le_div_iff₀ (by positivity), ← units,
      le_div_iff₀ positiveUnits]
    exact_mod_cast Iff.rfl
  simp only [reaches]
  split
  · rename_i reached
    refine ⟨by omega, ?_, fun _ => ?_⟩
    · calc
        (num : ℚ) / den < 2 ^ ((num.log2 : ℤ) - den.log2 + 1) := most
        _ ≤ 2 ^ ((width.fractionBits : ℤ) + 1 + (estimate + 1)) := powers (by omega)
        _ = 2 * width.leadingBit * 2 ^ (estimate + 1) := by
          rw [leading, zpow_add₀ two, zpow_add_one₀ two]
          ring
    · rw [zpow_add_one₀ two]
      linarith
  · rename_i short
    refine ⟨by omega, not_le.mp short, fun above => ?_⟩
    calc
      (width.leadingBit : ℚ) * 2 ^ estimate = 2 ^ ((width.fractionBits : ℤ) + estimate) := by
        rw [leading, zpow_add₀ two]
      _ ≤ 2 ^ ((num.log2 : ℤ) - den.log2 - 1) := powers (by omega)
      _ ≤ num / den := least

/-- The number next to a ratio, by the exponent of its last bit. -/
theorem round_eq (negative : Bool) {num den : Nat} (present : 0 < num) (positive : 0 < den) {exponent : Int}
    (last : IsLast width (num / den) exponent) :
    round width negative num den = ofMagnitude width negative
      ((exponent - width.unitExponent).toNat * width.leadingBit +
        Rounding.divide .toEven (inUnits num den exponent).1 (inUnits num den exponent).2) := by
  rw [round, if_neg present.ne', (isLast_lastExponent present positive).unique last]

/-- The number next to a ratio does not depend on how the ratio is written. -/
theorem round_congr (negative : Bool) {a b c d : Nat} (positiveB : 0 < b) (positiveD : 0 < d)
    (same : (a : ℚ) / b = c / d) : round width negative a b = round width negative c d := by
  have crossed {a b c d : Nat} (positiveB : 0 < b) (positiveD : 0 < d) (same : (a : ℚ) / b = c / d) :
      a * d = c * b := by
    rw [div_eq_div_iff (by exact_mod_cast positiveB.ne') (by exact_mod_cast positiveD.ne')] at same
    exact_mod_cast same
  have whole := crossed positiveB positiveD same
  rcases Nat.eq_zero_or_pos a with rfl | presentA
  · have zero : c = 0 := by
      rw [Nat.zero_mul, eq_comm, Nat.mul_eq_zero] at whole
      exact whole.resolve_right positiveB.ne'
    rw [zero, round, round, if_pos rfl, if_pos rfl]
  · have presentC : 0 < c := by
      rcases Nat.eq_zero_or_pos c with rfl | present
      · rw [Nat.zero_mul, Nat.mul_eq_zero] at whole
        omega
      · exact present
    have last : IsLast width (c / d) (lastExponent width c d) := isLast_lastExponent presentC positiveD
    rw [round_eq negative presentC positiveD last, round_eq negative presentA positiveB (same ▸ last)]
    generalize lastExponent width c d = exponent
    have units : ((inUnits a b exponent).1 : ℚ) / (inUnits a b exponent).2 =
        (inUnits c d exponent).1 / (inUnits c d exponent).2 := by
      rw [inUnits_eq, inUnits_eq, same]
    have unitsB := inUnits_pos positiveB a exponent
    have unitsD := inUnits_pos positiveD c exponent
    rw [Rounding.divide_congr .toEven unitsB unitsD (crossed unitsB unitsD units)]

theorem ofMagnitude_magnitude {x : Binary width} (small : x.magnitude ≤ width.infinity) :
    ofMagnitude width x.isNegative x.magnitude = x := by
  obtain ⟨bits, bits_lt⟩ := x
  have whole : width.patterns = 2 * width.signBit := by cases width <;> rfl
  have positive : 0 < width.signBit := by cases width <;> decide
  rw [ofMagnitude, mk.injEq, Nat.min_eq_left small, isNegative, magnitude]
  rcases Nat.lt_or_ge bits width.signBit with plus | minus
  · rw [Nat.mod_eq_of_lt plus]
    simp [Nat.not_le.mpr plus]
  · rw [Nat.mod_eq_sub_mod minus, Nat.mod_eq_of_lt (by omega)]
    simp [minus]

theorem magnitude_ofMagnitude (negative : Bool) {magnitude : Nat} (small : magnitude ≤ width.infinity) :
    (ofMagnitude width negative magnitude).magnitude = magnitude := by
  have room : width.infinity < width.signBit := by cases width <;> decide
  simp only [Binary.magnitude, ofMagnitude, Nat.min_eq_left small]
  split
  · rw [Nat.add_mod_left, Nat.mod_eq_of_lt (by omega)]
  · rw [Nat.zero_add, Nat.mod_eq_of_lt (by omega)]

/-- What a finite number is made of: a significand that is as long as it can be, unless the exponent is the least. -/
structure IsFinite (x : Binary width) (significand : Nat) (exponent : Int) : Prop where
  magnitude_lt : x.magnitude < width.infinity
  unit : width.unitExponent ≤ exponent
  below : significand < 2 * width.leadingBit
  above : width.unitExponent < exponent → width.leadingBit ≤ significand
  magnitude_eq : x.magnitude = (exponent - width.unitExponent).toNat * width.leadingBit + significand

theorem isFinite_of_shape {x : Binary width} {significand : Nat} {exponent : Int}
    (finite : x.shape = .finite significand exponent) : x.IsFinite significand exponent := by
  have positive : 0 < width.leadingBit := by cases width <;> decide
  have parts := Nat.div_add_mod' x.magnitude width.leadingBit
  have small := Nat.mod_lt x.magnitude positive
  simp only [shape] at finite
  split at finite
  · cases finite
  split at finite
  · cases finite
  split at finite
  · rename_i notNaN notInfinite field
    obtain ⟨rfl, rfl⟩ := FloatShape.finite.inj finite
    rw [field] at parts
    exact ⟨by omega, le_rfl, by omega, fun above => absurd above (lt_irrefl _), by simp; omega⟩
  · rename_i notNaN notInfinite field
    obtain ⟨rfl, rfl⟩ := FloatShape.finite.inj finite
    have least : width.leadingBit ≤ x.magnitude / width.leadingBit * width.leadingBit :=
      Nat.le_mul_of_pos_left _ (Nat.pos_of_ne_zero field)
    generalize x.magnitude / width.leadingBit = binade at *
    have behind : (width.unitExponent + (binade : ℤ) - 1 - width.unitExponent).toNat = binade - 1 := by omega
    refine ⟨by omega, by omega, by omega, fun _ => by omega, ?_⟩
    rw [behind, Nat.sub_mul]
    omega

/-- A ratio that is a finite number is rounded to the number. -/
theorem round_of_isFinite {x : Binary width} {significand : Nat} {exponent : Int}
    (finite : x.IsFinite significand exponent) (present : 0 < significand) {num den : Nat} (positive : 0 < den)
    (same : (num : ℚ) / den = significand * 2 ^ exponent) : round width x.isNegative num den = x := by
  have power : (0 : ℚ) < 2 ^ exponent := by positivity
  have last : IsLast width (num / den) exponent := by
    rw [same]
    refine ⟨finite.unit, ?_, fun above => ?_⟩
    · exact mul_lt_mul_of_pos_right (by exact_mod_cast finite.below) power
    · exact mul_le_mul_of_nonneg_right (by exact_mod_cast finite.above above) power.le
  have presentNum : 0 < num := by
    rcases Nat.eq_zero_or_pos num with rfl | presentNum
    · rw [Nat.cast_zero, zero_div] at same
      have : (0 : ℚ) < significand * 2 ^ exponent := by positivity
      linarith
    · exact presentNum
  have units := inUnits_eq num den exponent
  have positiveUnits := inUnits_pos positive num exponent
  rw [same, mul_div_cancel_right₀ _ power.ne', div_eq_iff (by exact_mod_cast positiveUnits.ne')] at units
  have whole : (inUnits num den exponent).1 = significand * (inUnits num den exponent).2 := by exact_mod_cast units
  rw [round_eq x.isNegative presentNum positive last, whole, Rounding.divide_mul _ _ _ positiveUnits,
    ← finite.magnitude_eq, ofMagnitude_magnitude finite.magnitude_lt.le]

/-- What is below half of the least number is rounded to zero. -/
theorem round_of_small (negative : Bool) {num den : Nat} (positive : 0 < den)
    (small : 2 * ((num : ℚ) / den) < 2 ^ width.unitExponent) : round width negative num den = zero width negative := by
  rcases Nat.eq_zero_or_pos num with rfl | present
  · exact if_pos rfl
  · have power : (0 : ℚ) < 2 ^ width.unitExponent := by positivity
    have leading : (1 : ℚ) ≤ width.leadingBit := by cases width <;> norm_num [FloatWidth.leadingBit]
    have least : IsLast width (num / den) width.unitExponent := by
      refine ⟨le_rfl, ?_, fun above => absurd above (lt_irrefl _)⟩
      nlinarith
    have positiveUnits := inUnits_pos positive num width.unitExponent
    have units : 2 * (inUnits num den width.unitExponent).1 < (inUnits num den width.unitExponent).2 := by
      have positiveQ : (0 : ℚ) < (inUnits num den width.unitExponent).2 := by exact_mod_cast positiveUnits
      have value := inUnits_eq num den width.unitExponent
      have below : 2 * (((inUnits num den width.unitExponent).1 : ℚ) / (inUnits num den width.unitExponent).2) < 1 := by
        rw [value, ← mul_div_assoc, div_lt_one power]
        exact small
      rw [← mul_div_assoc, div_lt_one positiveQ] at below
      exact_mod_cast below
    rw [round_eq negative present positive least, Rounding.divide_of_small .toEven units, sub_self]
    simp [zero]

/-- What is above all numbers is rounded to infinity. -/
theorem round_of_large (negative : Bool) {num den : Nat} (positive : 0 < den)
    (large : (2 : ℚ) ^ (1100 : ℤ) ≤ num / den) : round width negative num den = infinite width negative := by
  have present : 0 < num := by
    rcases Nat.eq_zero_or_pos num with rfl | present
    · rw [Nat.cast_zero, zero_div] at large
      exact absurd large (not_le.mpr (by positivity))
    · exact present
  have last : IsLast width (num / den) (lastExponent width num den) := isLast_lastExponent present positive
  rw [round_eq negative present positive last]
  generalize lastExponent width num den = exponent at *
  have least : 1100 < (width.fractionBits : ℤ) + 1 + exponent := by
    have below := lt_of_le_of_lt large last.below
    rw [leadingBit_eq, ← zpow_one_add₀ (by norm_num), ← zpow_add₀ (by norm_num)] at below
    have := (zpow_lt_zpow_iff_right₀ (by norm_num)).mp below
    omega
  have above (rounded : Nat) :
      width.infinity ≤ (exponent - width.unitExponent).toNat * width.leadingBit + rounded := by
    cases width <;> simp only [FloatWidth.infinity, FloatWidth.unitExponent, FloatWidth.leadingBit,
      FloatWidth.fractionBits] at least ⊢ <;> omega
  rw [infinite, ofMagnitude, ofMagnitude, mk.injEq, Nat.min_eq_right (above _), Nat.min_self]

end Binary

end Polystore
