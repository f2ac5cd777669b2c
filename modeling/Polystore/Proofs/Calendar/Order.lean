import Polystore.Proofs.Calendar.Texts
import Polystore.Proofs.Text.Digits

/-!
The texts of dates, times and timestamps are in the order of what they are texts of. The fields of a pattern are as long
in all texts, so that the first field that differs decides, and it does as its number does; behind the digits of the
nanoseconds, which are not all as long, nothing follows. Years before the year zero begin with a minus and are not in
order.
-/
namespace Polystore

namespace Calendar

theorem writes_padded (count n : Nat) : Text.Writes 10 (padded count n) n :=
  (Text.writes_toDigits (by decide) n).zeros (by decide) _

theorem compare_padded {count m n : Nat} (positive : 0 < count) (roomM : m < tenTo count) (roomN : n < tenTo count) :
    compare (padded count m) (padded count n) = compare m n := by
  apply (writes_padded count m).compare_eq (by decide) (writes_padded count n)
  rw [length_padded positive roomM, length_padded positive roomN]

/-- The digits of nanoseconds are in the order of the nanoseconds, of whatever lengths they are. -/
theorem compare_subsecondDigits {m n : Nat} (roomM : m < 1000000000) (roomN : n < 1000000000) :
    compare (subsecondDigits m) (subsecondDigits n) = compare m n := by
  have less {m n : Nat} (roomM : m < 1000000000) (roomN : n < 1000000000) (less : m < n) :
      compare (subsecondDigits m) (subsecondDigits n) = .lt := by
    have wholeM := padded_eq_subsecondDigits_append roomM
    have wholeN := padded_eq_subsecondDigits_append roomN
    have length : (padded 9 m).length = (padded 9 n).length := by
      rw [length_padded (by decide) roomM, length_padded (by decide) roomN]
    have filled : compare (padded 9 m) (padded 9 n) = .lt := by
      rw [compare_padded (by decide) roomM roomN, compare_lt_iff_lt.mpr less]
    rw [wholeM, wholeN] at filled length
    refine Text.compare_trimmed (fun _ => isDigit_of_mem_subsecondDigits roomM) ?_ filled
    simpa using length
  rcases lt_trichotomy m n with before | rfl | behind
  · rw [less roomM roomN before, compare_lt_iff_lt.mpr before]
  · rw [Std.ReflOrd.compare_self, Std.ReflOrd.compare_self]
  · rw [Std.OrientedOrd.eq_swap (a := subsecondDigits m), less roomN roomM behind, compare_gt_iff_gt.mpr behind]
    rfl

/-- Whether all texts of an element are as long: those of numbers of as many digits, and of characters. -/
def Piece.isFixed : Piece → Bool
  | .year | .month | .day | .hour | .minute | .second | .literal _ => true
  | .subsecond | .offsetHour | .offsetMinute => false

/-- The order of the parts that an element names, where all its texts are as long. -/
def Piece.order (a b : Parts) : Piece → Ordering
  | .year => compare a.year b.year
  | .month => compare a.month b.month
  | .day => compare a.day b.day
  | .hour => compare a.hour b.hour
  | .minute => compare a.minute b.minute
  | .second => compare a.second b.second
  | _ => .eq

/-- The order of the parts that a pattern names, one after another. -/
def Pattern.order (a b : Parts) : Pattern → Ordering
  | [] => .eq
  | piece :: rest => (piece.order a b).then (Pattern.order a b rest)

theorem compare_yearText {a b : Int} (eraA : 0 ≤ a) (eraB : 0 ≤ b) (roomA : a.natAbs < 10000)
    (roomB : b.natAbs < 10000) :
    compare (yearText a) (yearText b) = compare a b ∧ (yearText a).length = (yearText b).length := by
  have digits {year : Int} (era : 0 ≤ year) : yearText year = padded 4 year.natAbs := by
    rw [yearText, if_neg (by omega), List.nil_append]
  have numbers : compare a.natAbs b.natAbs = compare a b := compare_eq_compare (by omega) (by omega)
  rw [digits eraA, digits eraB, length_padded (by decide) roomA, length_padded (by decide) roomB]
  exact ⟨(compare_padded (by decide) roomA roomB).trans numbers, rfl⟩

/-- An element of a fixed length decides before what stands behind it, by the part that it names. -/
theorem Piece.compare_write_append {a b : Parts} (fitsA : a.Fits) (fitsB : b.Fits) (eraA : 0 ≤ a.year)
    (eraB : 0 ≤ b.year) {piece : Piece} (fixed : piece.isFixed = true) (restA restB : List Char) :
    compare (piece.write a ++ restA) (piece.write b ++ restB) = (piece.order a b).then (compare restA restB) := by
  have two {m n : Nat} (roomM : m < 100) (roomN : n < 100) :
      compare (padded 2 m ++ restA) (padded 2 n ++ restB) = (compare m n).then (compare restA restB) := by
    rw [compare_append, compare_padded (by decide) roomM roomN]
    rw [length_padded (by decide) roomM, length_padded (by decide) roomN]
  cases piece with
  | year =>
    obtain ⟨compared, length⟩ := compare_yearText eraA eraB fitsA.year fitsB.year
    exact (compare_append length restA restB).trans (by rw [compared]; rfl)
  | month => exact two fitsA.month fitsB.month
  | day => exact two fitsA.day fitsB.day
  | hour => exact two fitsA.hour fitsB.hour
  | minute => exact two fitsA.minute fitsB.minute
  | second => exact two fitsA.second fitsB.second
  | literal c => exact (compare_append rfl restA restB).trans (by rw [Std.ReflOrd.compare_self]; rfl)
  | subsecond | offsetHour | offsetMinute => cases fixed

theorem Pattern.compare_write_append {a b : Parts} (fitsA : a.Fits) (fitsB : b.Fits) (eraA : 0 ≤ a.year)
    (eraB : 0 ≤ b.year) {pattern : Pattern} (fixed : ∀ piece ∈ pattern, piece.isFixed = true)
    (restA restB : List Char) :
    compare (pattern.write a ++ restA) (pattern.write b ++ restB) =
      (pattern.order a b).then (compare restA restB) := by
  induction pattern with
  | nil => rfl
  | cons piece rest ih =>
    obtain ⟨first, others⟩ := List.forall_mem_cons.mp fixed
    have front (parts : Parts) (behind : List Char) :
        Pattern.write (piece :: rest) parts ++ behind = piece.write parts ++ (Pattern.write rest parts ++ behind) := by
      rw [Pattern.write, List.flatMap_cons, List.append_assoc]
      rfl
    rw [front, front, Piece.compare_write_append fitsA fitsB eraA eraB first, ih others, Pattern.order,
      Ordering.then_assoc]

end Calendar

open Calendar

theorem Date.compare_text {a b : Date} (eraA : 0 ≤ a.year) (eraB : 0 ≤ b.year) :
    compareText a.text b.text = a.compare b := by
  have fixed : ∀ piece ∈ datePattern, piece.isFixed = true := by decide
  have compared := Pattern.compare_write_append a.fits_parts b.fits_parts eraA eraB fixed [] []
  rw [List.append_nil, List.append_nil, Std.ReflOrd.compare_self, Ordering.then_eq] at compared
  rw [compareText, Date.text, Date.text, String.toList_ofList, String.toList_ofList, compared]
  simp [datePattern, Pattern.order, Piece.order, Date.parts, Date.compare]

/-- Times of day are compared by the hour, the minute, the second and the nanosecond. -/
theorem Time.compare_eq (a b : Time) : a.compare b = (Ord.compare a.hour b.hour).then
    ((Ord.compare a.minute b.minute).then
      ((Ord.compare a.second b.second).then (Ord.compare a.nanosecond b.nanosecond))) := by
  obtain ⟨_, minuteA, secondA, nanosecondA⟩ := a.valid
  obtain ⟨_, minuteB, secondB, nanosecondB⟩ := b.valid
  rw [Time.compare, Time.number, Time.number, compare_mul_add nanosecondA nanosecondB, compare_mul_add secondA secondB,
    compare_mul_add minuteA minuteB, Ordering.then_assoc, Ordering.then_assoc]

/-- A pattern that ends with the digits of the nanoseconds. -/
theorem Calendar.Pattern.compare_write_subsecond {a b : Parts} (fitsA : a.Fits) (fitsB : b.Fits) (eraA : 0 ≤ a.year)
    (eraB : 0 ≤ b.year) {pattern : Pattern} (fixed : ∀ piece ∈ pattern, piece.isFixed = true) :
    compare (Pattern.write (pattern ++ [.subsecond]) a) (Pattern.write (pattern ++ [.subsecond]) b) =
      (pattern.order a b).then (compare a.nanosecond b.nanosecond) := by
  have last (parts : Parts) : Pattern.write [.subsecond] parts = subsecondDigits parts.nanosecond := by
    simp [Pattern.write, Piece.write]
  rw [Pattern.write_append, Pattern.write_append, Pattern.compare_write_append fitsA fitsB eraA eraB fixed, last, last,
    compare_subsecondDigits fitsA.nanosecond fitsB.nanosecond]

theorem Time.compare_storedText (a b : Time) : compareText a.storedText b.storedText = a.compare b := by
  have split : timePattern = (secondPattern ++ [.literal '.']) ++ [.subsecond] := rfl
  rw [compareText, Time.storedText, Time.storedText, String.toList_ofList, String.toList_ofList, split,
    Pattern.compare_write_subsecond a.fits_parts b.fits_parts (Int.le_refl 0) (Int.le_refl 0) (by decide), a.compare_eq]
  simp [secondPattern, minutePattern, Pattern.order, Piece.order, Time.parts, Ordering.then_assoc]

theorem Timestamp.compare_storedText {a b : Timestamp} (eraA : 0 ≤ a.date.year) (eraB : 0 ≤ b.date.year) :
    compareText a.storedText b.storedText = a.compare b := by
  have split : timestampPattern 'T' timePattern =
      (timestampPattern 'T' secondPattern ++ [.literal '.']) ++ [.subsecond] := rfl
  rw [compareText, Timestamp.storedText, Timestamp.storedText, String.toList_ofList, String.toList_ofList, split,
    Pattern.compare_write_subsecond a.fits_parts b.fits_parts eraA eraB (by decide), Timestamp.compare,
    a.time.compare_eq]
  simp [timestampPattern, datePattern, secondPattern, minutePattern, Pattern.order, Piece.order, Timestamp.parts,
    Time.parts, Date.compare, Ordering.then_assoc]

end Polystore
