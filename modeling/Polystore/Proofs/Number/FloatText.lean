import Polystore.Proofs.Calendar.Digits
import Polystore.Proofs.Number.IntegerText
import Polystore.Proofs.Number.Shortest
import Polystore.Proofs.Value.Equality

/-!
Floating-point numbers come back from their texts. However a layout sets out the digits of a number, with a point or
with an exponent, the reader finds the number that the digits write; and the number that they write is rounded to the one
whose shortest digits they are.
-/
namespace Polystore

open Calendar

namespace FloatText

/-- A text of a number, with or without a point, and with or without an exponent. -/
def Shows (text : List Char) (number : ℚ) : Prop :=
  ∃ digits exponent, readNumber text = some (digits, exponent) ∧ DecimalDigits.number ⟨digits, exponent⟩ = number

section Parts

variable {whole fraction rest : List Char}

theorem takeWhile_isDigit (each : ∀ c ∈ whole, c.isDigit = true) (stops : StopsDigits rest) :
    (whole ++ rest).takeWhile Char.isDigit = whole := by
  rw [List.takeWhile_append_of_pos each, stops.takeWhile_eq_nil, List.append_nil]

theorem dropWhile_isDigit (each : ∀ c ∈ whole, c.isDigit = true) (stops : StopsDigits rest) :
    (whole ++ rest).dropWhile Char.isDigit = rest := by
  rw [List.dropWhile_append_of_pos each, stops.dropWhile_eq]

/-- Digits on both sides of a point are one number, whose last digit stands as far behind the point as there are digits
behind it. -/
theorem readNumber_point (each : ∀ c ∈ whole, c.isDigit = true) (present : whole ≠ [])
    (eachFraction : ∀ c ∈ fraction, c.isDigit = true) (stops : StopsDigits rest) :
    readNumber (whole ++ '.' :: (fraction ++ rest)) = (readExponent rest).map fun exponent : Int =>
      (Nat.ofDigitChars 10 (whole ++ fraction) 0, exponent - fraction.length) := by
  have point : StopsDigits ('.' :: (fraction ++ rest)) := stopsDigits_cons rfl _
  have empty : whole.isEmpty = false := by simpa using present
  simp only [readNumber, takeWhile_isDigit each point, dropWhile_isDigit each point,
    takeWhile_isDigit eachFraction stops, dropWhile_isDigit eachFraction stops, empty, Bool.false_and,
    Bool.false_eq_true, if_false]

/-- Digits without a point are a number whose last digit is the first before it. -/
theorem readNumber_exponent (each : ∀ c ∈ whole, c.isDigit = true) (present : whole ≠ []) (behind : List Char) :
    readNumber (whole ++ 'e' :: behind) =
      (readExponent ('e' :: behind)).map fun exponent : Int => (Nat.ofDigitChars 10 whole 0, exponent) := by
  have stops : StopsDigits ('e' :: behind) := stopsDigits_cons rfl _
  have empty : whole.isEmpty = false := by simpa using present
  simp only [readNumber, takeWhile_isDigit each stops, dropWhile_isDigit each stops, empty, Bool.false_and,
    Bool.false_eq_true, if_false]
  change (readExponent ('e' :: behind)).map (fun exponent : Int =>
    (Nat.ofDigitChars 10 (whole ++ []) 0, exponent - ([] : List Char).length)) = _
  simp only [List.append_nil, List.length_nil, Nat.cast_zero, sub_zero]

/-- Digits on both sides of a point, at least one of them before it, that write a number. -/
structure Around (whole fraction : List Char) (number : ℚ) : Prop where
  present : whole ≠ []
  before : ∀ c ∈ whole, c.isDigit = true
  behind : ∀ c ∈ fraction, c.isDigit = true
  value : DecimalDigits.number ⟨Nat.ofDigitChars 10 (whole ++ fraction) 0, -fraction.length⟩ = number

variable {number : ℚ}

theorem Around.shows (around : Around whole fraction number) : Shows (whole ++ '.' :: fraction) number := by
  have reads := readNumber_point around.before around.present around.behind stopsDigits_nil
  rw [List.append_nil] at reads
  refine ⟨_, _, reads, ?_⟩
  rw [zero_sub, around.value]

theorem Around.exists_digit (around : Around whole fraction number) :
    ∃ c rest, whole ++ '.' :: fraction = c :: rest ∧ c.isDigit = true := by
  obtain ⟨c, others, shown⟩ := List.exists_cons_of_ne_nil around.present
  exact ⟨c, _, by rw [shown]; rfl, around.before c (shown ▸ List.mem_cons_self)⟩

theorem Around.isBlank_of_mem (around : Around whole fraction number) {c : Char}
    (member : c ∈ whole ++ '.' :: fraction) : Text.isBlank c = false := by
  rcases List.mem_append.mp member with front | behind
  · exact Text.isBlank_of_isDigit (around.before c front)
  · rcases List.mem_cons.mp behind with rfl | digit
    · rfl
    · exact Text.isBlank_of_isDigit (around.behind c digit)

end Parts

/-- An exponent is read as it is written. -/
theorem readExponent_toString (exponent : Int) : readExponent ('e' :: (toString exponent).toList) = some exponent := by
  have each (c : Char) (member : c ∈ Nat.toDigits 10 exponent.natAbs) : c.isDigit = true :=
    Nat.isDigit_of_mem_toDigits (by decide) (by decide) member
  have value : Nat.ofDigitChars 10 (Nat.toDigits 10 exponent.natAbs) 0 = exponent.natAbs :=
    Nat.ofDigitChars_toDigits (by decide) (by decide)
  have present : Nat.toDigits 10 exponent.natAbs ≠ [] := Nat.toDigits_ne_nil
  rw [IntegerText.toList_toString]
  generalize Nat.toDigits 10 exponent.natAbs = digits at *
  have empty : digits.isEmpty = false := by simpa using present
  have all : digits.all Char.isDigit = true := List.all_eq_true.mpr each
  by_cases negative : exponent < 0
  · simp [readExponent, negative, empty, all, value, abs_of_neg negative]
  · have magnitude : (exponent.natAbs : Int) = exponent := by omega
    rw [if_neg negative, List.nil_append]
    cases digits with
    | nil => exact absurd rfl present
    | cons c others =>
      have digit := each c (List.mem_cons_self ..)
      simp only [readExponent, decide_true, Bool.true_or, if_true]
      split
      · rename_i sign
        cases sign
        cases digit
      · rename_i sign
        cases sign
        cases digit
      · simp [all, value, magnitude]

end FloatText

namespace Binary

variable {width : FloatWidth} {x : Binary width}

theorem magnitude_of_infinite (shape : x.shape = .infinite) : x.magnitude = width.infinity := by
  unfold Binary.shape at shape
  split at shape
  · cases shape
  · split at shape
    · assumption
    · dsimp only at shape
      split at shape <;> cases shape

/-- A finite number without a significand is zero. -/
theorem IsFinite.magnitude_of_zero {exponent : Int} (finite : x.IsFinite 0 exponent) : x.magnitude = 0 := by
  have least : ¬ width.unitExponent < exponent := fun above => by
    have leading := finite.above above
    cases width <;> cases leading
  have none : (exponent - width.unitExponent).toNat = 0 := by omega
  rw [finite.magnitude_eq, none, Nat.zero_mul]

end Binary

namespace FloatLayout

/-- Without the zeros at their end digits write the same number behind the same point. -/
theorem number_significantDigits {number : DecimalDigits} (present : 0 < number.digits) :
    significantDigits number.digits ≠ [] ∧ (∀ c ∈ significantDigits number.digits, c.isDigit = true) ∧
      DecimalDigits.number ⟨Nat.ofDigitChars 10 (significantDigits number.digits) 0,
        number.position - (significantDigits number.digits).length⟩ = number.number := by
  obtain ⟨zeros, all, whole⟩ := eq_append_of_dropWhile_reverse (· = '0') (Nat.toDigits 10 number.digits)
  have repeated : zeros = List.replicate zeros.length '0' :=
    List.eq_replicate_of_mem fun c member => by simpa using all c member
  have value : Nat.ofDigitChars 10 (Nat.toDigits 10 number.digits) 0 = number.digits :=
    Nat.ofDigitChars_toDigits (by decide) (by decide)
  have counted : digitCount number.digits = (significantDigits number.digits).length + zeros.length := by
    rw [digitCount, whole, List.length_append]
    rfl
  have split : Nat.toDigits 10 number.digits =
      significantDigits number.digits ++ List.replicate zeros.length '0' := by
    rw [← repeated]
    exact whole
  have product : Nat.ofDigitChars 10 (significantDigits number.digits) 0 * tenTo zeros.length = number.digits := by
    rw [split, Nat.ofDigitChars_append, Nat.ofDigitChars_replicate_zero, Nat.mul_comm] at value
    exact value
  refine ⟨?_, ?_, ?_⟩
  · intro none
    rw [none] at product
    simp at product
    omega
  · intro c member
    have inDigits : c ∈ Nat.toDigits 10 number.digits := split ▸ List.mem_append_left _ member
    exact Nat.isDigit_of_mem_toDigits (by decide) (by decide) inDigits
  · have exponent : number.position - (significantDigits number.digits).length = zeros.length + number.exponent := by
      rw [DecimalDigits.position, counted]
      push_cast
      ring
    rw [DecimalDigits.number, DecimalDigits.number, exponent, zpow_add₀ (by norm_num), zpow_natCast, ← tenTo_eq,
      ← mul_assoc]
    norm_cast
    rw [product]

section Layouts

variable {digits : List Char} (each : ∀ c ∈ digits, c.isDigit = true)
include each

/-- Zeros stand between a point and digits that begin behind it. -/
theorem around_before {position : Int} (before : position ≤ 0) :
    FloatText.Around ['0'] (List.replicate (-position).toNat '0' ++ digits)
      (DecimalDigits.number ⟨Nat.ofDigitChars 10 digits 0, position - digits.length⟩) where
  present := List.cons_ne_nil _ _
  before := by simp
  behind c member := by
    rcases List.mem_append.mp member with zero | digit
    · rw [List.eq_of_mem_replicate zero]
      rfl
    · exact each c digit
  value := by
    have front : ['0'] ++ (List.replicate (-position).toNat '0' ++ digits) =
        List.replicate ((-position).toNat + 1) '0' ++ digits := rfl
    have exponent : -((List.replicate (-position).toNat '0' ++ digits).length : ℤ) = position - digits.length := by
      rw [List.length_append, List.length_replicate]
      omega
    rw [front, Nat.ofDigitChars_append, Nat.ofDigitChars_replicate_zero, Nat.mul_zero, exponent]

/-- A point among the digits parts them. -/
theorem around_inside {count : Nat} (present : digits.take count ≠ []) (inside : count < digits.length) :
    FloatText.Around (digits.take count) (digits.drop count)
      (DecimalDigits.number ⟨Nat.ofDigitChars 10 digits 0, (count : Int) - digits.length⟩) where
  present := present
  before c member := each c (List.mem_of_mem_take member)
  behind c member := each c (List.mem_of_mem_drop member)
  value := by
    have exponent : -((digits.drop count).length : ℤ) = count - digits.length := by
      rw [List.length_drop]
      omega
    rw [List.take_append_drop, exponent]

/-- Zeros stand between digits and a point that comes behind them. -/
theorem around_behind {count : Nat} (present : digits ≠ []) (beyond : digits.length ≤ count) :
    FloatText.Around (digits ++ List.replicate (count - digits.length) '0') ['0']
      (DecimalDigits.number ⟨Nat.ofDigitChars 10 digits 0, (count : Int) - digits.length⟩) where
  present := by simp [present]
  before c member := by
    rcases List.mem_append.mp member with digit | zero
    · exact each c digit
    · rw [List.eq_of_mem_replicate zero]
      rfl
  behind := by simp
  value := by
    have value : Nat.ofDigitChars 10 (digits ++ List.replicate (count - digits.length) '0' ++ ['0']) 0 =
        Nat.ofDigitChars 10 digits 0 * tenTo (count - digits.length + 1) := by
      rw [List.append_assoc, ← List.replicate_succ', Nat.ofDigitChars_append, Nat.ofDigitChars_replicate_zero,
        Nat.mul_comm]
      rfl
    have exponent : (count : ℤ) - digits.length = (count - digits.length + 1 : Nat) + -(['0'].length : ℤ) := by
      rw [List.length_singleton]
      omega
    rw [value, exponent, DecimalDigits.number, DecimalDigits.number, zpow_add₀ (by norm_num), zpow_natCast, ← tenTo_eq,
      ← mul_assoc, Nat.cast_mul]

/-- Digits with a point behind so many of them are a number around the point, that has so many digits before it. -/
theorem exists_withPoint (present : digits ≠ []) (position : Int) :
    ∃ whole fraction, withPoint digits position = whole ++ '.' :: fraction ∧ FloatText.Around whole fraction
      (DecimalDigits.number ⟨Nat.ofDigitChars 10 digits 0, position - digits.length⟩) := by
  unfold withPoint
  split
  · exact ⟨_, _, rfl, around_before each ‹_›⟩
  · rename_i ahead
    obtain ⟨count, rfl⟩ : ∃ count : Nat, position = count := ⟨position.toNat, by omega⟩
    rw [Int.toNat_natCast]
    dsimp only
    by_cases inside : count < digits.length
    · have some : digits.take count ≠ [] := by
        rw [ne_eq, List.take_eq_nil_iff, not_or]
        exact ⟨by omega, present⟩
      have more : (digits.drop count).isEmpty = false := by simpa using inside
      rw [more, Nat.sub_eq_zero_of_le inside.le, List.replicate_zero, List.append_nil, if_neg Bool.false_ne_true]
      exact ⟨_, _, rfl, around_inside each some inside⟩
    · have beyond : digits.length ≤ count := Nat.le_of_not_lt inside
      rw [List.take_of_length_le beyond, List.drop_of_length_le beyond, List.isEmpty_nil, if_pos rfl]
      exact ⟨_, _, rfl, around_behind each present beyond⟩

/-- Digits with an exponent show the number. -/
theorem shows_withExponent (present : digits ≠ []) (position : Int) :
    FloatText.Shows (withExponent digits (position - 1))
      (DecimalDigits.number ⟨Nat.ofDigitChars 10 digits 0, position - digits.length⟩) := by
  cases digits with
  | nil => exact absurd rfl present
  | cons c others =>
    obtain ⟨first, behind⟩ := List.forall_mem_cons.mp each
    have whole : ∀ c' ∈ [c], c'.isDigit = true := by simpa using first
    have exponent := FloatText.readExponent_toString (position - 1)
    cases others with
    | nil =>
      have reads := FloatText.readNumber_exponent whole (List.cons_ne_nil _ _) (toString (position - 1)).toList
      rw [exponent] at reads
      exact ⟨_, _, reads, rfl⟩
    | cons next others =>
      have stops : StopsDigits ('e' :: (toString (position - 1)).toList) := stopsDigits_cons rfl _
      have reads := FloatText.readNumber_point whole (List.cons_ne_nil _ _) behind stops
      rw [exponent] at reads
      refine ⟨_, _, reads, ?_⟩
      have last : position - 1 - ((next :: others).length : ℤ) = position - ((c :: next :: others).length : ℤ) := by
        simp only [List.length_cons]
        omega
      rw [last]
      rfl

theorem exists_withExponent (present : digits ≠ []) (exponent : Int) :
    (∃ c rest, withExponent digits exponent = c :: rest ∧ c.isDigit = true) ∧
      ∀ c ∈ withExponent digits exponent, Text.isBlank c = false := by
  have visible {c : Char} (member : c ∈ digits) : Text.isBlank c = false := Text.isBlank_of_isDigit (each c member)
  obtain ⟨first, others, shown⟩ := List.exists_cons_of_ne_nil present
  refine ⟨⟨first, _, by rw [withExponent, shown]; rfl, each first (shown ▸ List.mem_cons_self)⟩, fun c member => ?_⟩
  rcases List.mem_append.mp member with front | behind
  · rcases List.mem_append.mp front with whole | fraction
    · exact visible (List.mem_of_mem_take whole)
    · split at fraction
      · cases fraction
      · rcases List.mem_cons.mp fraction with rfl | fraction
        · rfl
        · exact visible (List.mem_of_mem_drop fraction)
  · rcases List.mem_cons.mp behind with rfl | number
    · rfl
    · exact IntegerText.isBlank_of_mem_toString number

end Layouts

/-- However the digits of a number are set out, they show the number. -/
theorem shows_setOut (layout : FloatLayout) {number : DecimalDigits} (present : 0 < number.digits) :
    FloatText.Shows (layout.setOut number) number.number := by
  obtain ⟨some, each, value⟩ := number_significantDigits present
  unfold setOut
  dsimp only
  split
  · obtain ⟨whole, fraction, text, around⟩ := exists_withPoint each some number.position
    have shows := around.shows
    rwa [← text, value] at shows
  · have shows := shows_withExponent each some number.position
    rwa [value] at shows

/-- The text of a finite number is read as the number. -/
theorem readMagnitude_setOut {width : FloatWidth} (layout : FloatLayout) {x : Binary width} {significand : Nat}
    {exponent : Int} (finite : x.IsFinite significand exponent) (present : 0 < significand) :
    FloatText.readMagnitude width x.isNegative
      (layout.setOut (Shortest.digits layout.tie x significand exponent)) = some x := by
  obtain ⟨digits, last, reads, value⟩ := layout.shows_setOut (Shortest.digits_pos layout.tie finite present)
  unfold FloatText.readMagnitude
  rw [reads]
  dsimp only
  rw [FloatText.ofDigits_eq, Shortest.roundDigits_congr value, Shortest.roundDigits_digits layout.tie finite present]

/-- The text of the magnitude of a number is read as the number, with its sign. -/
theorem readMagnitude_magnitudeText {width : FloatWidth} (layout : FloatLayout) {x : Binary width}
    (isNumber : x.isNaN = false) :
    FloatText.readMagnitude width x.isNegative (layout.magnitudeText x) = some x := by
  unfold magnitudeText
  split
  · rename_i notANumber
    exact absurd notANumber (Binary.shape_ne_notANumber isNumber)
  · rename_i infinite
    have magnitude := Binary.magnitude_of_infinite infinite
    have whole := Binary.ofMagnitude_magnitude magnitude.le
    rw [magnitude] at whole
    have nameless : FloatText.readNumber "inf".toList = none := by decide
    have name : String.ofList ("inf".toList.map Char.toLower) = "inf" := by decide
    unfold FloatText.readMagnitude
    rw [nameless]
    simp only [name]
    exact congrArg some whole
  · rename_i zero
    have magnitude := (Binary.isFinite_of_shape zero).magnitude_of_zero
    have whole := Binary.ofMagnitude_magnitude (x := x) (by omega)
    rw [magnitude] at whole
    have reads : FloatText.readNumber "0.0".toList = some (0, -1) := by decide
    unfold FloatText.readMagnitude
    rw [reads]
    exact congrArg some whole
  · rename_i significand exponent present shape
    exact layout.readMagnitude_setOut (Binary.isFinite_of_shape shape) (Nat.pos_of_ne_zero present)

/-- Digits that are set out begin with a digit, and have no blanks among them. -/
theorem exists_setOut (layout : FloatLayout) {number : DecimalDigits} (present : 0 < number.digits) :
    (∃ c rest, layout.setOut number = c :: rest ∧ c.isDigit = true) ∧
      ∀ c ∈ layout.setOut number, Text.isBlank c = false := by
  obtain ⟨some, each, _⟩ := number_significantDigits present
  unfold setOut
  dsimp only
  split
  · obtain ⟨whole, fraction, text, around⟩ := exists_withPoint each some (number.exponent + digitCount number.digits)
    rw [text]
    exact ⟨around.exists_digit, fun _ => around.isBlank_of_mem⟩
  · exact exists_withExponent each some _

/-- The text of a magnitude begins with no sign, and has no blanks. -/
theorem exists_magnitudeText {width : FloatWidth} (layout : FloatLayout) (x : Binary width) :
    (∃ c rest, layout.magnitudeText x = c :: rest ∧ c ≠ '-' ∧ c ≠ '+') ∧
      ∀ c ∈ layout.magnitudeText x, Text.isBlank c = false := by
  unfold magnitudeText
  split
  · exact ⟨⟨'N', _, rfl, by decide, by decide⟩, by simp [Text.isBlank]⟩
  · exact ⟨⟨'i', _, rfl, by decide, by decide⟩, by simp [Text.isBlank]⟩
  · exact ⟨⟨'0', _, rfl, by decide, by decide⟩, by simp [Text.isBlank]⟩
  · rename_i significand exponent present shape
    have finite := Binary.isFinite_of_shape shape
    obtain ⟨⟨c, rest, text, digit⟩, visible⟩ :=
      layout.exists_setOut (Shortest.digits_pos layout.tie finite (Nat.pos_of_ne_zero present))
    refine ⟨⟨c, rest, text, ?_, ?_⟩, visible⟩
    · rintro rfl
      cases digit
    · rintro rfl
      cases digit

/-- The text of a number is read as the number. -/
theorem read_text {width : FloatWidth} (layout : FloatLayout) {x : Binary width} (isNumber : x.isNaN = false) :
    FloatText.read width (layout.text x).toList = some x := by
  have reads := layout.readMagnitude_magnitudeText isNumber
  obtain ⟨⟨c, rest, text, minus, plus⟩, _⟩ := layout.exists_magnitudeText x
  rw [FloatLayout.text, String.toList_ofList, isNumber, Bool.not_false, Bool.and_true]
  cases sign : x.isNegative with
  | true =>
    rw [sign] at reads
    exact reads
  | false =>
    rw [sign, text] at reads
    rw [if_neg Bool.false_ne_true, text]
    unfold FloatText.read
    split
    · rename_i same
      exact absurd (List.cons.inj same).1 minus
    · rename_i same
      exact absurd (List.cons.inj same).1 plus
    · exact reads

theorem isBlank_of_mem_text {width : FloatWidth} {layout : FloatLayout} {x : Binary width} {c : Char}
    (member : c ∈ (layout.text x).toList) : Text.isBlank c = false := by
  obtain ⟨_, visible⟩ := layout.exists_magnitudeText x
  rw [FloatLayout.text, String.toList_ofList] at member
  split at member
  · rcases List.mem_cons.mp member with rfl | behind
    · rfl
    · exact visible c behind
  · exact visible c member

end FloatLayout

end Polystore
