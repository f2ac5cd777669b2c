import Polystore.Number.FloatText
import Polystore.Proofs.Number.Nearest

/-!
The shortest digits of a number round to the number. The search tries them before it takes them, and the digits that it
ends with at the latest are exact. Digits far too large or far too small round to infinity and to zero, as a reader has
it that counts them only.
-/
namespace Polystore

theorem tenTo_eq (n : Nat) : (tenTo n : ℚ) = 10 ^ n := by
  rw [tenTo, Nat.pow_eq]
  push_cast
  rfl

theorem tenTo_toNat {exponent : Int} (whole : 0 ≤ exponent) : (tenTo exponent.toNat : ℚ) = 10 ^ exponent := by
  rw [tenTo_eq, ← zpow_natCast, Int.toNat_of_nonneg whole]

theorem tenTo_toNat_neg {exponent : Int} (negative : exponent ≤ 0) :
    (tenTo (-exponent).toNat : ℚ) = (10 ^ exponent)⁻¹ := by
  rw [tenTo_eq, ← zpow_natCast, Int.toNat_of_nonneg (by omega), zpow_neg]

theorem lt_tenTo_digitCount (n : Nat) : n < tenTo (digitCount n) := by
  have positive : 0 < digitCount n := List.length_pos_of_ne_nil Nat.toDigits_ne_nil
  exact (Nat.length_toDigits_le_iff (by decide) positive).mp le_rfl

theorem tenTo_digitCount_le {n : Nat} (present : 0 < n) : tenTo (digitCount n - 1) ≤ n := by
  rcases Nat.eq_zero_or_pos (digitCount n - 1) with none | positive
  · rw [none]
    exact present
  · refine Nat.le_of_not_lt fun below => ?_
    have fewer : digitCount n ≤ digitCount n - 1 := (Nat.length_toDigits_le_iff (by decide) positive).mpr below
    omega

namespace DecimalDigits

/-- The number that digits write. -/
def number (digits : DecimalDigits) : ℚ := digits.digits * 10 ^ digits.exponent

/-- How many digits stand in front of the point. -/
def position (digits : DecimalDigits) : Int := digits.exponent + digitCount digits.digits

theorem number_lt (digits : DecimalDigits) : digits.number < 10 ^ digits.position := by
  have below : (digits.digits : ℚ) < 10 ^ (digitCount digits.digits : ℤ) := by
    rw [zpow_natCast, ← tenTo_eq]
    exact_mod_cast lt_tenTo_digitCount digits.digits
  rw [number, position, zpow_add₀ (by norm_num), mul_comm]
  exact mul_lt_mul_of_pos_left below (by positivity)

theorem le_number (digits : DecimalDigits) (present : 0 < digits.digits) :
    (10 : ℚ) ^ (digits.position - 1) ≤ digits.number := by
  have counted : 0 < digitCount digits.digits := List.length_pos_of_ne_nil Nat.toDigits_ne_nil
  have above : (10 : ℚ) ^ ((digitCount digits.digits : ℤ) - 1) ≤ digits.digits := by
    have power : ((digitCount digits.digits : ℤ) - 1) = ((digitCount digits.digits - 1 : Nat) : ℤ) := by omega
    rw [power, zpow_natCast, ← tenTo_eq]
    exact_mod_cast tenTo_digitCount_le present
  rw [number, position, add_sub_assoc, zpow_add₀ (by norm_num), mul_comm]
  exact mul_le_mul_of_nonneg_right above (by positivity)

end DecimalDigits

namespace Shortest

variable {width : FloatWidth}

/-- Digits are rounded as a ratio of the same number. -/
theorem exists_ratio (digits : DecimalDigits) : ∃ num den : Nat, 0 < den ∧ (num : ℚ) / den = digits.number ∧
    ∀ (width : FloatWidth) (negative : Bool),
      roundDigits width negative digits = Binary.round width negative num den := by
  by_cases whole : 0 ≤ digits.exponent
  · refine ⟨digits.digits * tenTo digits.exponent.toNat, 1, Nat.one_pos, ?_, fun width negative => if_pos whole⟩
    push_cast
    rw [tenTo_toNat whole, div_one, DecimalDigits.number]
  · refine ⟨digits.digits, tenTo (-digits.exponent).toNat, tenTo_pos _, ?_, fun width negative => if_neg whole⟩
    rw [tenTo_toNat_neg (by omega), div_inv_eq_mul, DecimalDigits.number]

/-- Digits that write one number are rounded alike. -/
theorem roundDigits_congr {a b : DecimalDigits} (same : a.number = b.number) (width : FloatWidth) (negative : Bool) :
    roundDigits width negative a = roundDigits width negative b := by
  obtain ⟨num, den, positive, value, rounds⟩ := exists_ratio a
  obtain ⟨num', den', positive', value', rounds'⟩ := exists_ratio b
  rw [rounds, rounds']
  exact Binary.round_congr negative positive positive' (value.trans (same.trans value'.symm))

end Shortest

theorem two_zpow_le_ten_zpow : (2 : ℚ) ^ (1100 : ℤ) ≤ 10 ^ (400 : ℤ) := by
  have powers : ((2 : ℚ) ^ 11) ^ 100 ≤ (10 ^ 4) ^ 100 := pow_le_pow_left₀ (by norm_num) (by norm_num) 100
  rw [← pow_mul, ← pow_mul] at powers
  exact powers

/-- The count of digits settles what is far too large or far too small as rounding does. -/
theorem FloatText.ofDigits_eq (width : FloatWidth) (negative : Bool) (digits : Nat) (exponent : Int) :
    ofDigits width negative digits exponent = Shortest.roundDigits width negative ⟨digits, exponent⟩ := by
  obtain ⟨num, den, positive, value, rounds⟩ := Shortest.exists_ratio ⟨digits, exponent⟩
  have most := DecimalDigits.number_lt ⟨digits, exponent⟩
  have ten {e f : ℤ} (less : e ≤ f) : (10 : ℚ) ^ e ≤ 10 ^ f := zpow_le_zpow_right₀ (by norm_num) less
  simp only [ofDigits, Bool.or_eq_true, decide_eq_true_eq]
  rw [rounds]
  split
  · rename_i vanishing
    refine (Binary.round_of_small negative positive ?_).symm
    have least : (2 : ℚ) ^ (-1100 : ℤ) ≤ 2 ^ width.unitExponent :=
      zpow_le_zpow_right₀ (by norm_num) (by cases width <;> decide)
    rw [value]
    rcases vanishing with zero | small
    · rw [DecimalDigits.number, zero, Nat.cast_zero, zero_mul, mul_zero]
      positivity
    · have tiny : (10 : ℚ) ^ (-400 : ℤ) ≤ 2 ^ (-1100 : ℤ) := by
        rw [zpow_neg, zpow_neg]
        exact inv_anti₀ (by positivity) two_zpow_le_ten_zpow
      have tenth : (10 : ℚ) ^ (-401 : ℤ) * 10 = 10 ^ (-400 : ℤ) := (zpow_add_one₀ (by norm_num) (-401)).symm
      have below := most.trans_le (ten (f := -401) (by simp only [DecimalDigits.position]; omega))
      have positive : (0 : ℚ) < 10 ^ (-401 : ℤ) := by positivity
      linarith
  · rename_i present
    obtain ⟨some, -⟩ := not_or.mp present
    split
    · rename_i large
      refine (Binary.round_of_large negative positive ?_).symm
      have above := DecimalDigits.le_number ⟨digits, exponent⟩ (Nat.pos_of_ne_zero some)
      rw [value]
      exact two_zpow_le_ten_zpow.trans ((ten (by simp only [DecimalDigits.position]; omega)).trans above)
    · rfl

namespace Shortest

variable {width : FloatWidth}

theorem inUnits_pos {den : Nat} (positive : 0 < den) (num : Nat) (exponent : Int) :
    0 < (inUnits num den exponent).2 := by
  rw [inUnits]
  split
  · exact Nat.mul_pos positive (tenTo_pos _)
  · exact positive

/-- In units of a power of ten a ratio is divided by the power. -/
theorem inUnits_eq (num den : Nat) (exponent : Int) :
    ((inUnits num den exponent).1 : ℚ) / (inUnits num den exponent).2 = num / den / 10 ^ exponent := by
  rw [inUnits]
  split
  · rename_i whole
    push_cast
    rw [tenTo_toNat whole, div_div]
  · rename_i negative
    push_cast
    rw [tenTo_toNat_neg (by omega), div_eq_mul_inv, div_eq_mul_inv, div_eq_mul_inv]
    ring

/-- The first digit of a ratio stands where the ratio reaches. -/
theorem pointPosition_le {num den : Nat} (present : 0 < num) (positive : 0 < den) :
    (10 : ℚ) ^ (pointPosition num den - 1) ≤ num / den := by
  have ten : (10 : ℚ) ≠ 0 := by norm_num
  have positiveQ : (0 : ℚ) < den := by exact_mod_cast positive
  rw [pointPosition]
  generalize estimated : (digitCount num : ℤ) - digitCount den = estimate
  have units := inUnits_eq num den estimate
  have unitsPos := inUnits_pos positive num estimate
  split
  · rename_i reached
    have power : (0 : ℚ) < 10 ^ estimate := by positivity
    have one : (1 : ℚ) ≤ num / den / 10 ^ estimate := by
      rw [← units, one_le_div (by exact_mod_cast unitsPos)]
      exact_mod_cast reached
    rw [add_sub_cancel_right]
    exact (one_le_div power).mp one
  · have most := DecimalDigits.number_lt ⟨den, 0⟩
    have least := DecimalDigits.le_number ⟨num, 0⟩ present
    simp only [DecimalDigits.number, DecimalDigits.position, zpow_zero, mul_one, zero_add] at most least
    have split : estimate - 1 = (digitCount num : ℤ) - 1 - digitCount den := by omega
    rw [split, zpow_sub₀ ten]
    exact div_le_div₀ (by positivity) least positiveQ most.le

/-- A candidate is rounded to the number. -/
theorem roundDigits_candidate {tie : Rounding.Tie} {x : Binary width} {num den : Nat} {exponent : Int}
    {number : DecimalDigits} (found : candidate tie x num den exponent = some number) :
    roundDigits width x.isNegative number = x := by
  unfold candidate at found
  dsimp only at found
  split at found
  · rename_i below above
    have divided (tie : Rounding.Tie) (a b : Nat) :
        Rounding.divide tie a b = a / b ∨ Rounding.divide tie a b = a / b + 1 := by
      rw [Rounding.divide]
      split <;> simp
    obtain rfl := Option.some.inj found
    rcases divided tie (inUnits num den exponent).1 (inUnits num den exponent).2 with down | up
    · rw [down]
      exact of_decide_eq_true below
    · rw [up]
      exact of_decide_eq_true above
  · rename_i below above
    obtain rfl := Option.some.inj found
    exact of_decide_eq_true below
  · rename_i below above
    obtain rfl := Option.some.inj found
    exact of_decide_eq_true above
  · cases found

/-- A search that comes to exact digits gives digits that are rounded to the number. -/
theorem roundDigits_search {tie : Rounding.Tie} {x : Binary width} {num den : Nat} (positive : 0 < den)
    (rounds : Binary.round width x.isNegative num den = x) (more : Nat) {exponent : Int}
    (exact : ∃ n : Nat, (num : ℚ) / den = n * 10 ^ (exponent - more)) :
    roundDigits width x.isNegative (search tie x num den more exponent) = x := by
  induction more generalizing exponent with
  | zero =>
    obtain ⟨n, exact⟩ := exact
    rw [Nat.cast_zero, sub_zero] at exact
    have units := inUnits_eq num den exponent
    have unitsPos := inUnits_pos positive num exponent
    rw [exact, mul_div_cancel_right₀ _ (by positivity), div_eq_iff (by exact_mod_cast unitsPos.ne')] at units
    have whole : (inUnits num den exponent).1 = n * (inUnits num den exponent).2 := by exact_mod_cast units
    have digits : (inUnits num den exponent).1 / (inUnits num den exponent).2 = n := by
      rw [whole, Nat.mul_div_cancel _ unitsPos]
    obtain ⟨num', den', positive', value, rounds'⟩ := exists_ratio ⟨n, exponent⟩
    rw [search, digits, rounds']
    exact (Binary.round_congr _ positive' positive (value.trans exact.symm)).trans rounds
  | succ more ih =>
    rw [search]
    cases found : candidate tie x num den exponent with
    | some number => exact roundDigits_candidate found
    | none =>
      refine ih ?_
      rw [sub_sub, add_comm]
      exact_mod_cast exact

/-- A search that begins at the first digit comes to exact digits. -/
theorem exists_exact {num places : Nat} (present : 0 < num) :
    ∃ n : Nat, (num : ℚ) / (2 ^ places : Nat) =
      n * 10 ^ (pointPosition num (2 ^ places) - 1 - (exactDigitCount num places : ℕ)) := by
  have ten : (10 : ℚ) ≠ 0 := by norm_num
  have value : (num : ℚ) / (2 ^ places : Nat) = (num * 5 ^ places : Nat) * 10 ^ (-(places : ℤ)) := by
    have powers : (10 : ℚ) ^ places = 2 ^ places * 5 ^ places := by
      rw [← mul_pow]
      norm_num
    push_cast
    rw [zpow_neg, zpow_natCast, powers]
    field_simp
  have below := pointPosition_le present (Nat.two_pow_pos places)
  have most := DecimalDigits.number_lt ⟨num * 5 ^ places, -places⟩
  rw [DecimalDigits.number, ← value] at most
  have ahead : pointPosition num (2 ^ places) - 1 < -places + (exactDigitCount num places : ℕ) :=
    (zpow_lt_zpow_iff_right₀ (by norm_num)).mp (below.trans_lt most)
  have behind : pointPosition num (2 ^ places) - 1 - (exactDigitCount num places : ℕ) ≤ -(places : ℤ) := by omega
  generalize pointPosition num (2 ^ places) - 1 - (exactDigitCount num places : ℕ) = last at *
  refine ⟨num * 5 ^ places * tenTo (-(places : ℤ) - last).toNat, ?_⟩
  rw [value, Nat.cast_mul (num * 5 ^ places), tenTo_toNat (by omega), mul_assoc, ← zpow_add₀ ten, sub_add_cancel]

/-- The digits of a finite number are rounded to the number. -/
theorem roundDigits_digits (tie : Rounding.Tie) {x : Binary width} {significand : Nat} {exponent : Int}
    (finite : x.IsFinite significand exponent) (present : 0 < significand) :
    roundDigits width x.isNegative (digits tie x significand exponent) = x := by
  have positive := Binary.inUnits_pos Nat.one_pos significand (-exponent)
  have value := Binary.inUnits_eq significand 1 (-exponent)
  rw [Nat.cast_one, div_one, zpow_neg, div_inv_eq_mul] at value
  have rounds := Binary.round_of_isFinite finite present positive value
  have den : (Binary.inUnits significand 1 (-exponent)).2 = 2 ^ (-exponent).toNat := by
    rw [Binary.inUnits]
    split
    · exact Nat.one_shiftLeft _
    · rename_i positive
      have none : (-exponent).toNat = 0 := by omega
      rw [none, pow_zero]
  have num : 0 < (Binary.inUnits significand 1 (-exponent)).1 := by
    rw [Binary.inUnits]
    split
    · exact present
    · rw [Nat.shiftLeft_eq]
      positivity
  refine roundDigits_search positive rounds _ ?_
  rw [den]
  exact exists_exact num

/-- The digits of a finite number are not nothing. -/
theorem digits_pos (tie : Rounding.Tie) {x : Binary width} {significand : Nat} {exponent : Int}
    (finite : x.IsFinite significand exponent) (present : 0 < significand) :
    0 < (digits tie x significand exponent).digits := by
  have rounds := roundDigits_digits tie finite present
  generalize digits tie x significand exponent = number at *
  refine Nat.pos_of_ne_zero fun none => ?_
  have zero : roundDigits width x.isNegative number = Binary.zero width x.isNegative := by
    simp [roundDigits, none, Binary.round]
  rw [zero] at rounds
  have magnitude : x.magnitude = 0 := by
    rw [← rounds]
    exact Binary.magnitude_ofMagnitude _ (Nat.zero_le _)
  have := finite.magnitude_eq
  omega

end Shortest

end Polystore
