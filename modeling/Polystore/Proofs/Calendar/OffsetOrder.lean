import Polystore.Proofs.Calendar.Days
import Polystore.Proofs.Calendar.Order

/-!
The order of the texts of timestamps with offsets. The texts begin with the local time, so that local times decide
first; behind a fraction, which ends where it ends, comes the offset, and its first character is less than a point or a
digit, or, in universal time, greater. So the texts are in the order of the instants where the instants are further
apart than local times can be, and where one offset is common to them, save in universal time for two fractions of one
second of which one goes on where the other ends.
-/
namespace Polystore

namespace Rfc3339

open Calendar

/-- Whether the fraction of another second goes on where the fraction of a second ends. -/
def GoesOn (nanosecond other : Nat) : Prop := nanosecond ≠ other ∧ fraction nanosecond <+: fraction other

instance (nanosecond other : Nat) : Decidable (GoesOn nanosecond other) := inferInstanceAs (Decidable (_ ∧ _))

/-- The order of fractions, by the offsets behind them: where one goes on, the letter of universal time is greater than
what it goes on with. -/
def fractionOrder (nanosecond : Nat) (offset : Int) (other : Nat) (otherOffset : Int) : Ordering :=
  if offset = 0 ∧ GoesOn nanosecond other then .gt
  else if otherOffset = 0 ∧ GoesOn other nanosecond then .lt
  else compare nanosecond other

/-- The place of the first character of an offset among the three. -/
def offsetRank (offset : Int) : Nat := if offset = 0 then 2 else if offset < 0 then 1 else 0

/-- The order of offsets: those ahead of universal time, those behind it, universal time itself. -/
def offsetOrder (offset other : Int) : Ordering :=
  (compare (offsetRank offset) (offsetRank other)).then (compare offset.natAbs other.natAbs)

theorem fraction_eq_cons {nanosecond : Nat} (present : nanosecond ≠ 0) :
    fraction nanosecond = '.' :: subsecondDigits nanosecond := if_neg present

/-- Fractions are in the order of the nanoseconds. -/
theorem compare_fraction {m n : Nat} (roomM : m < 1000000000) (roomN : n < 1000000000) :
    compare (fraction m) (fraction n) = compare m n := by
  rcases Nat.eq_zero_or_pos m with rfl | presentM
  · rcases Nat.eq_zero_or_pos n with rfl | presentN
    · rfl
    · rw [fraction_eq_cons presentN.ne', compare_lt_iff_lt.mpr presentN]
      rfl
  · rw [fraction_eq_cons presentM.ne']
    rcases Nat.eq_zero_or_pos n with rfl | presentN
    · rw [compare_gt_iff_gt.mpr presentM]
      rfl
    · rw [fraction_eq_cons presentN.ne', List.compare_cons_cons, Std.ReflOrd.compare_self, Ordering.eq_then,
        compare_subsecondDigits roomM roomN]

theorem GoesOn.lt {m n : Nat} (roomM : m < 1000000000) (roomN : n < 1000000000) (goesOn : GoesOn m n) : m < n := by
  rw [← compare_lt_iff_lt, ← compare_fraction roomM roomN]
  refine compare_of_prefix goesOn.2 fun same => goesOn.1 ?_
  rw [← compare_eq_iff_eq, ← compare_fraction roomM roomN, same, Std.ReflOrd.compare_self]

/-- What a fraction goes on with is a point or a digit. -/
theorem of_mem_fraction {n : Nat} (room : n < 1000000000) {c : Char} (member : c ∈ fraction n) :
    c = '.' ∨ c.isDigit = true := by
  by_cases none : n = 0
  · rw [none] at member
    cases member
  · rw [fraction_eq_cons none] at member
    exact (List.mem_cons.mp member).imp_right (isDigit_of_mem_subsecondDigits room)

/-- An offset is less than what fractions go on with, the letter of universal time is greater. -/
theorem compare_offsetText {offset : Int} {c : Char} (goesOn : c = '.' ∨ c.isDigit = true) (rest : List Char) :
    compare (offsetText offset) (c :: rest) = if offset = 0 then .gt else .lt := by
  have first {front : Char} (others : List Char) {order : Ordering} (decided : compare front c = order)
      (strict : order ≠ .eq) : compare (front :: others) (c :: rest) = order := by
    rw [List.compare_cons_cons, decided]
    cases order with
    | lt | gt => rfl
    | eq => exact absurd rfl strict
  have places : compare 'Z' c = .gt ∧ compare '+' c = .lt ∧ compare '-' c = .lt := by
    rcases goesOn with rfl | digit
    · decide
    · rw [Char.isDigit, Bool.and_eq_true, decide_eq_true_eq, decide_eq_true_eq, ge_iff_le, UInt32.le_iff_toNat_le,
        UInt32.le_iff_toNat_le] at digit
      obtain ⟨least, greatest⟩ := digit
      have less {a b : Char} (less : a.val.toNat < b.val.toNat) : compare a b = .lt := compareOfLessAndEq_eq_lt.mpr less
      refine ⟨?_, less (lt_of_lt_of_le (by decide) least), less (lt_of_lt_of_le (by decide) least)⟩
      rw [Std.OrientedOrd.eq_swap (a := 'Z'), less (lt_of_le_of_lt greatest (by decide))]
      rfl
  obtain ⟨letter, plus, minus⟩ := places
  unfold offsetText
  split
  · exact first _ letter (by decide)
  · split
    · exact first _ minus (by decide)
    · exact first _ plus (by decide)

/-- Offsets of one sign are compared by the hours, then by the minutes. -/
theorem compare_signed (sign : Char) {x y : Nat} (dayX : x < 1440) (dayY : y < 1440) :
    compare (sign :: (padded 2 (x / 60) ++ ':' :: padded 2 (x % 60)))
      (sign :: (padded 2 (y / 60) ++ ':' :: padded 2 (y % 60))) = compare x y := by
  have room {n : Nat} (small : n < 60) : n < tenTo 2 := lt_trans small (by decide)
  have hourX : x / 60 < 60 := by omega
  have hourY : y / 60 < 60 := by omega
  have minuteX : x % 60 < 60 := Nat.mod_lt x (by decide)
  have minuteY : y % 60 < 60 := Nat.mod_lt y (by decide)
  have length : (padded 2 (x / 60)).length = (padded 2 (y / 60)).length := by
    rw [length_padded (by decide) (room hourX), length_padded (by decide) (room hourY)]
  rw [List.compare_cons_cons, Std.ReflOrd.compare_self, Ordering.eq_then, compare_append length,
    compare_padded (by decide) (room hourX) (room hourY), List.compare_cons_cons, Std.ReflOrd.compare_self,
    Ordering.eq_then, compare_padded (by decide) (room minuteX) (room minuteY), ← compare_mul_add minuteX minuteY,
    Nat.div_add_mod', Nat.div_add_mod']

/-- Offsets in whole minutes are in order as texts. -/
theorem compare_offsetTexts {x y : Int} (minutesX : x % 60 = 0) (minutesY : y % 60 = 0) (dayX : x.natAbs < 86400)
    (dayY : y.natAbs < 86400) : compare (offsetText x) (offsetText y) = offsetOrder x y := by
  have magnitudes (sign : Char) :
      compare (sign :: (padded 2 (x.natAbs / 60 / 60) ++ ':' :: padded 2 (x.natAbs / 60 % 60)))
      (sign :: (padded 2 (y.natAbs / 60 / 60) ++ ':' :: padded 2 (y.natAbs / 60 % 60))) =
        compare x.natAbs y.natAbs := by
    rw [compare_signed sign (by omega) (by omega)]
    exact compare_eq_compare (by omega) (by omega)
  unfold offsetText offsetOrder offsetRank
  by_cases zeroX : x = 0
  · by_cases zeroY : y = 0
    · rw [zeroX, zeroY]
      rfl
    · by_cases negativeY : y < 0
      · simp only [zeroX, zeroY, negativeY, if_true, if_false]
        rfl
      · simp only [zeroX, zeroY, negativeY, if_true, if_false]
        rfl
  · by_cases zeroY : y = 0
    · by_cases negativeX : x < 0
      · simp only [zeroX, zeroY, negativeX, if_true, if_false]
        rfl
      · simp only [zeroX, zeroY, negativeX, if_true, if_false]
        rfl
    · by_cases negativeX : x < 0
      · by_cases negativeY : y < 0
        · simp only [zeroX, zeroY, negativeX, negativeY, if_true, if_false]
          exact magnitudes '-'
        · simp only [zeroX, zeroY, negativeX, negativeY, if_true, if_false]
          rfl
      · by_cases negativeY : y < 0
        · simp only [zeroX, zeroY, negativeX, negativeY, if_true, if_false]
          rfl
        · simp only [zeroX, zeroY, negativeX, negativeY, if_false]
          exact magnitudes '+'

/-- A fraction that ends early is decided upon by the offset behind it. -/
theorem compare_of_goesOn {m n : Nat} (roomM : m < 1000000000) (roomN : n < 1000000000) (goesOn : GoesOn m n)
    (offset : Int) (rest : List Char) :
    compare (fraction m ++ offsetText offset) (fraction n ++ rest) = if offset = 0 then .gt else .lt := by
  obtain ⟨more, whole⟩ := goesOn.2
  cases more with
  | nil =>
    have before := goesOn.lt roomM roomN
    rw [← compare_lt_iff_lt, ← compare_fraction roomM roomN, ← whole, List.append_nil, Std.ReflOrd.compare_self]
      at before
    cases before
  | cons c others =>
    have member : c ∈ fraction n := by rw [← whole]; simp
    rw [← whole, List.append_assoc, compare_append_left]
    exact compare_offsetText (of_mem_fraction roomN member) _

/-- What stands behind the second is compared by the fractions, then by the offsets. -/
theorem compare_tail {m n : Nat} {x y : Int} (roomM : m < 1000000000) (roomN : n < 1000000000)
    (offsets : compare (offsetText x) (offsetText y) = offsetOrder x y) :
    compare (fraction m ++ offsetText x) (fraction n ++ offsetText y) =
      (fractionOrder m x n y).then (offsetOrder x y) := by
  by_cases same : m = n
  · subst same
    simp [fractionOrder, GoesOn, compare_append_left, offsets]
  by_cases front : fraction m <+: fraction n
  · have goesOn : GoesOn m n := ⟨same, front⟩
    have before := goesOn.lt roomM roomN
    have notBack : ¬ GoesOn n m := fun back => lt_asymm before (back.lt roomN roomM)
    rw [compare_of_goesOn roomM roomN goesOn, fractionOrder]
    simp only [goesOn, notBack, and_true, and_false, if_false, compare_lt_iff_lt.mpr before]
    split <;> rfl
  by_cases back : fraction n <+: fraction m
  · have goesOn : GoesOn n m := ⟨Ne.symm same, back⟩
    have behind := goesOn.lt roomN roomM
    have notFront : ¬ GoesOn m n := fun front => lt_asymm behind (front.lt roomM roomN)
    rw [Std.OrientedOrd.eq_swap (a := fraction m ++ offsetText x), compare_of_goesOn roomN roomM goesOn, fractionOrder]
    simp only [goesOn, notFront, and_true, and_false, if_false, compare_gt_iff_gt.mpr behind]
    split <;> rfl
  · have notFront : ¬ GoesOn m n := fun goesOn => front goesOn.2
    have notBack : ¬ GoesOn n m := fun goesOn => back goesOn.2
    rw [compare_append_of_apart front back, compare_fraction roomM roomN, fractionOrder]
    simp only [notFront, notBack, and_false, if_false]
    cases order : compare m n with
    | lt | gt => rfl
    | eq => exact absurd (compare_eq_iff_eq.mp order) same

end Rfc3339

namespace OffsetTimestamp

open Calendar Rfc3339

/-- The order of the texts of timestamps: the local time to the second, the fraction, the offset. -/
def writtenOrder (a b : OffsetTimestamp) : Ordering :=
  (Ord.compare a.localTime.wholeSeconds b.localTime.wholeSeconds).then
    ((fractionOrder a.localTime.time.nanosecond a.offset b.localTime.time.nanosecond b.offset).then
      (offsetOrder a.offset b.offset))

/-- Two timestamps of one second in universal time, of which the fraction of one goes on where that of the other
ends. -/
def Overtakes (a b : OffsetTimestamp) : Prop :=
  a.offset = 0 ∧ a.localTime.wholeSeconds = b.localTime.wholeSeconds ∧
    (GoesOn a.localTime.time.nanosecond b.localTime.time.nanosecond ∨
      GoesOn b.localTime.time.nanosecond a.localTime.time.nanosecond)

instance (a b : OffsetTimestamp) : Decidable (a.Overtakes b) := inferInstanceAs (Decidable (_ ∧ _ ∧ _))

/-- Every timestamp of the profile has a text, and the texts are in the written order. -/
theorem compare_texts {a b : OffsetTimestamp} (writableA : a.IsWritable) (writableB : b.IsWritable) :
    ∃ s t : String, write? a = some s ∧ write? b = some t ∧ compareText s t = a.writtenOrder b := by
  have fitsA := a.localTime.fits_parts
  have fitsB := b.localTime.fits_parts
  refine ⟨_, _, if_pos ((isWritable_iff a).mpr writableA), if_pos ((isWritable_iff b).mpr writableB), ?_⟩
  have tails := compare_tail fitsA.nanosecond fitsB.nanosecond
    (compare_offsetTexts writableA.minutes writableB.minutes writableA.day writableB.day)
  have fixed : ∀ piece ∈ localPattern, piece.isFixed = true := by decide
  have seconds : localPattern.order a.localTime.parts b.localTime.parts =
      Ord.compare a.localTime.wholeSeconds b.localTime.wholeSeconds := by
    rw [Timestamp.compare_wholeSeconds]
    simp [localPattern, Pattern.order, Piece.order, Timestamp.parts, Time.parts, Date.compare, Ordering.then_assoc]
  rw [compareText, String.toList_ofList, String.toList_ofList, List.append_assoc, List.append_assoc,
    Pattern.compare_write_append fitsA fitsB writableA.year writableB.year fixed, seconds, tails]
  rfl

theorem offsetOrder_eq_iff {x y : Int} : offsetOrder x y = .eq ↔ x = y := by
  simp only [offsetOrder, Ordering.then_eq_eq, compare_eq_iff_eq]
  constructor
  · rintro ⟨ranks, magnitudes⟩
    grind [offsetRank]
  · rintro rfl
    exact ⟨rfl, rfl⟩

theorem fractionOrder_eq_iff {m n : Nat} {x y : Int} : fractionOrder m x n y = .eq ↔ m = n := by
  unfold fractionOrder
  split
  · rename_i goesOn
    exact ⟨fun same => (by cases same), fun same => absurd same goesOn.2.1⟩
  · split
    · rename_i goesOn
      exact ⟨fun same => (by cases same), fun same => absurd same.symm goesOn.2.1⟩
    · exact compare_eq_iff_eq

/-- Texts are the same only if local time and offset are. -/
theorem writtenOrder_eq_iff {a b : OffsetTimestamp} : a.writtenOrder b = .eq ↔ a = b := by
  simp only [writtenOrder, Ordering.then_eq_eq, compare_eq_iff_eq, fractionOrder_eq_iff, offsetOrder_eq_iff]
  constructor
  · rintro ⟨seconds, nanosecond, offset⟩
    cases a
    cases b
    cases Timestamp.eq_of_wholeSeconds seconds nanosecond
    cases offset
    rfl
  · rintro rfl
    exact ⟨rfl, rfl, rfl⟩

/-- Timestamps of one offset are compared by the second, then by the nanosecond. -/
theorem compare_of_offset {a b : OffsetTimestamp} (offset : a.offset = b.offset) :
    a.compare b = (Ord.compare a.localTime.wholeSeconds b.localTime.wholeSeconds).then
      (Ord.compare a.localTime.time.nanosecond b.localTime.time.nanosecond) := by
  obtain ⟨-, -, -, roomA⟩ := a.localTime.time.valid
  obtain ⟨-, -, -, roomB⟩ := b.localTime.time.valid
  rw [compare, instant, instant, offset, Timestamp.number_eq, Timestamp.number_eq]
  rcases lt_trichotomy a.localTime.wholeSeconds b.localTime.wholeSeconds with before | same | behind
  · rw [compare_lt_iff_lt.mpr before, Ordering.lt_then, compare_lt_iff_lt]
    omega
  · rw [same, Std.ReflOrd.compare_self, Ordering.eq_then]
    exact compare_eq_compare (by omega) (by omega)
  · rw [compare_gt_iff_gt.mpr behind, Ordering.gt_then, compare_gt_iff_gt]
    omega

/-- In one zone the texts are in the order of the instants, but for fractions that overtake. -/
theorem writtenOrder_eq_compare_iff {a b : OffsetTimestamp} (offset : a.offset = b.offset) :
    a.writtenOrder b = a.compare b ↔ ¬ a.Overtakes b := by
  obtain ⟨-, -, -, roomA⟩ := a.localTime.time.valid
  obtain ⟨-, -, -, roomB⟩ := b.localTime.time.valid
  have zones : offsetOrder a.offset b.offset = .eq := offsetOrder_eq_iff.mpr offset
  rw [compare_of_offset offset, writtenOrder, zones, Ordering.then_eq, Overtakes]
  cases seconds : Ord.compare a.localTime.wholeSeconds b.localTime.wholeSeconds with
  | lt | gt =>
    have apart : a.localTime.wholeSeconds ≠ b.localTime.wholeSeconds := by
      intro same
      rw [same, Std.ReflOrd.compare_self] at seconds
      cases seconds
    simp [apart]
  | eq =>
    rw [Ordering.eq_then, Ordering.eq_then, fractionOrder, ← offset]
    simp only [compare_eq_iff_eq.mp seconds, true_and]
    by_cases universal : a.offset = 0
    · by_cases front : GoesOn a.localTime.time.nanosecond b.localTime.time.nanosecond
      · have before := front.lt roomA roomB
        simp [universal, front, compare_lt_iff_lt.mpr before]
      · by_cases back : GoesOn b.localTime.time.nanosecond a.localTime.time.nanosecond
        · have behind := back.lt roomB roomA
          simp [universal, front, back, compare_gt_iff_gt.mpr behind]
        · simp [universal, front, back]
    · simp [universal]

/-- Instants that are two days apart are in the order of the texts. -/
theorem writtenOrder_of_apart {a b : OffsetTimestamp} (writableA : a.IsWritable) (writableB : b.IsWritable)
    (apart : 172800000000000 ≤ (a.instant - b.instant).natAbs) : a.writtenOrder b = a.compare b := by
  obtain ⟨-, -, -, roomA⟩ := a.localTime.time.valid
  obtain ⟨-, -, -, roomB⟩ := b.localTime.time.valid
  have dayA := writableA.day
  have dayB := writableB.day
  have minutesA := writableA.minutes
  have minutesB := writableB.minutes
  have instantA : a.instant =
      a.localTime.wholeSeconds * 1000000000 + a.localTime.time.nanosecond - a.offset * 1000000000 := by
    rw [instant, Timestamp.number_eq]
  have instantB : b.instant =
      b.localTime.wholeSeconds * 1000000000 + b.localTime.time.nanosecond - b.offset * 1000000000 := by
    rw [instant, Timestamp.number_eq]
  rw [writtenOrder, compare]
  rcases lt_trichotomy a.instant b.instant with before | same | behind
  · have seconds : a.localTime.wholeSeconds < b.localTime.wholeSeconds := by omega
    rw [compare_lt_iff_lt.mpr before, compare_lt_iff_lt.mpr seconds, Ordering.lt_then]
  · omega
  · have seconds : b.localTime.wholeSeconds < a.localTime.wholeSeconds := by omega
    rw [compare_gt_iff_gt.mpr behind, compare_gt_iff_gt.mpr seconds, Ordering.gt_then]

end OffsetTimestamp

end Polystore
