import Polystore.Proofs.Value.Order

/-!
Days and seconds counted. The numbers of days go up with the year, the month and the day, so that days, and local times
with them, are in the order of their counts.
-/
namespace Polystore

def daysInYear (year : Int) : Nat := if isLeapYear year then 366 else 365

/-- A year is behind all days of the years before it. -/
theorem daysBeforeYear_mono {year later : Int} (before : year < later) :
    daysBeforeYear year + daysInYear year ≤ daysBeforeYear later := by
  have next : daysBeforeYear (year + 1) = daysBeforeYear year + daysInYear year := by
    simp only [daysBeforeYear, daysInYear, isLeapYear, Bool.and_eq_true, Bool.or_eq_true, decide_eq_true_eq]
    split <;> omega
  rw [← next, daysBeforeYear, daysBeforeYear]
  omega

/-- A month is behind all days of the months before it. -/
theorem daysBeforeMonth_mono (year : Int) {month later : Nat} (positive : 1 ≤ month) (before : month < later) :
    daysBeforeMonth year month + daysInMonth year month ≤ daysBeforeMonth year later := by
  induction later, before using Nat.le_induction with
  | base => rw [daysBeforeMonth, if_neg (by omega)]
  | succ later behind ih =>
    rw [daysBeforeMonth, if_neg (by omega)]
    omega

theorem daysBeforeMonth_thirteen (year : Int) : daysBeforeMonth year 13 = daysInYear year := by
  have months : daysBeforeMonth year 13 = 31 + daysInMonth year 2 + 306 := rfl
  have february : daysInMonth year 2 = if isLeapYear year then 29 else 28 := rfl
  rw [months, february, daysInYear]
  split <;> rfl

namespace Date

theorem number_lt_number {a b : Date} (before : a.compare b = .lt) : a.number < b.number := by
  obtain ⟨-, ⟨first, last⟩, ⟨-, days⟩⟩ := a.valid
  obtain ⟨-, -, ⟨one, -⟩⟩ := b.valid
  simp only [compare, Ordering.then_eq_lt, compare_lt_iff_lt, compare_eq_iff_eq] at before
  rw [number, number]
  rcases before with year | ⟨year, month | ⟨month, day⟩⟩
  · have years := daysBeforeYear_mono year
    have months := daysBeforeMonth_mono a.year first (Nat.lt_succ_of_le last)
    rw [daysBeforeMonth_thirteen] at months
    omega
  · have months := daysBeforeMonth_mono a.year first month
    rw [← year]
    omega
  · rw [← year, ← month]
    omega

theorem eq_of_compare {a b : Date} (same : a.compare b = .eq) : a = b := by
  simp only [compare, Ordering.then_eq_eq, compare_eq_iff_eq] at same
  obtain ⟨year, month, day⟩ := same
  cases a
  cases b
  cases year
  cases month
  cases day
  rfl

/-- Days are in the order of their numbers. -/
theorem compare_eq (a b : Date) : a.compare b = Ord.compare a.number b.number := by
  have swapped : a.compare b = (b.compare a).swap := Std.OrientedCmp.eq_swap
  cases order : a.compare b with
  | lt => exact (compare_lt_iff_lt.mpr (number_lt_number order)).symm
  | eq => rw [eq_of_compare order, Std.ReflOrd.compare_self]
  | gt =>
    have turned : b.compare a = .lt := by rw [← Ordering.swap_eq_gt, ← swapped, order]
    exact (compare_gt_iff_gt.mpr (number_lt_number turned)).symm

end Date

/-- The whole seconds since midnight. -/
def Time.wholeSeconds (time : Time) : Nat := (time.hour * 60 + time.minute) * 60 + time.second

theorem Time.wholeSeconds_lt (time : Time) : time.wholeSeconds < 86400 := by
  obtain ⟨hours, minutes, seconds, -⟩ := time.valid
  rw [wholeSeconds]
  omega

namespace Timestamp

/-- The whole seconds of a timestamp, counted from a fixed midnight. -/
def wholeSeconds (timestamp : Timestamp) : Int := timestamp.date.number * 86400 + timestamp.time.wholeSeconds

theorem number_eq (timestamp : Timestamp) :
    timestamp.number = timestamp.wholeSeconds * 1000000000 + timestamp.time.nanosecond := by
  rw [number, Time.number, wholeSeconds, Time.wholeSeconds]
  omega

/-- Local times to the second are compared by the date, the hour, the minute and the second. -/
theorem compare_wholeSeconds (a b : Timestamp) : Ord.compare a.wholeSeconds b.wholeSeconds =
    (a.date.compare b.date).then ((Ord.compare a.time.hour b.time.hour).then
      ((Ord.compare a.time.minute b.time.minute).then (Ord.compare a.time.second b.time.second))) := by
  obtain ⟨-, minuteA, secondA, -⟩ := a.time.valid
  obtain ⟨-, minuteB, secondB, -⟩ := b.time.valid
  have clock : Ord.compare a.time.wholeSeconds b.time.wholeSeconds = (Ord.compare a.time.hour b.time.hour).then
      ((Ord.compare a.time.minute b.time.minute).then (Ord.compare a.time.second b.time.second)) := by
    rw [Time.wholeSeconds, Time.wholeSeconds, compare_mul_add secondA secondB, compare_mul_add minuteA minuteB,
      Ordering.then_assoc]
  have dayA := a.time.wholeSeconds_lt
  have dayB := b.time.wholeSeconds_lt
  rw [← clock, Date.compare_eq, wholeSeconds, wholeSeconds]
  rcases lt_trichotomy a.date.number b.date.number with before | same | behind
  · rw [compare_lt_iff_lt.mpr before, Ordering.lt_then, compare_lt_iff_lt]
    omega
  · rw [same, Std.ReflOrd.compare_self, Ordering.eq_then]
    exact compare_eq_compare (by omega) (by omega)
  · rw [compare_gt_iff_gt.mpr behind, Ordering.gt_then, compare_gt_iff_gt]
    omega

theorem eq_of_wholeSeconds {a b : Timestamp} (second : a.wholeSeconds = b.wholeSeconds)
    (nanosecond : a.time.nanosecond = b.time.nanosecond) : a = b := by
  have same := compare_wholeSeconds a b
  rw [second, Std.ReflOrd.compare_self, eq_comm] at same
  simp only [Ordering.then_eq_eq, compare_eq_iff_eq] at same
  obtain ⟨date, hour, minute, seconds⟩ := same
  obtain ⟨dateA, timeA⟩ := a
  obtain ⟨dateB, timeB⟩ := b
  cases timeA
  cases timeB
  cases Date.eq_of_compare date
  cases hour
  cases minute
  cases seconds
  cases nanosecond
  rfl

end Timestamp

end Polystore
