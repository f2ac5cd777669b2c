import Mathlib.Data.List.TakeWhile
import Polystore.Calendar.Pattern
import Polystore.Number.Power

/-!
Numbers as digits, and back. A number that has room in a field of digits is read from the field whatever text comes
behind it; the digits of nanoseconds end where they end, so that no digit may come behind them.
-/
namespace Polystore.Calendar

/-- A text that does not go on with a digit. -/
def StopsDigits (text : List Char) : Prop := ∀ c ∈ text.head?, c.isDigit = false

theorem stopsDigits_nil : StopsDigits [] := by simp [StopsDigits]

theorem stopsDigits_cons {c : Char} (noDigit : c.isDigit = false) (rest : List Char) : StopsDigits (c :: rest) := by
  simp [StopsDigits, noDigit]

theorem StopsDigits.takeWhile_eq_nil {text : List Char} (stops : StopsDigits text) :
    text.takeWhile Char.isDigit = [] := by
  cases text with
  | nil => rfl
  | cons c rest => simp [stops c rfl]

theorem StopsDigits.dropWhile_eq {text : List Char} (stops : StopsDigits text) :
    text.dropWhile Char.isDigit = text := by
  cases text with
  | nil => rfl
  | cons c rest => simp [stops c rfl]

theorem isDigit_of_mem_padded {count n : Nat} {c : Char} (member : c ∈ padded count n) : c.isDigit = true := by
  rcases List.mem_append.mp member with zero | digit
  · rw [List.eq_of_mem_replicate zero]
    rfl
  · exact Nat.isDigit_of_mem_toDigits (by decide) (by decide) digit

theorem length_padded {count n : Nat} (positive : 0 < count) (room : n < tenTo count) :
    (padded count n).length = count := by
  have fits : (Nat.toDigits 10 n).length ≤ count := (Nat.length_toDigits_le_iff (by decide) positive).mpr room
  simp only [padded, List.length_append, List.length_replicate]
  omega

theorem ofDigitChars_padded (count n : Nat) : Nat.ofDigitChars 10 (padded count n) 0 = n := by
  simp [padded, Nat.ofDigitChars_append, Nat.ofDigitChars_replicate_zero, Nat.ofDigitChars_toDigits]

/-- A field of digits gives its number. -/
theorem takeDigits_padded {count n : Nat} (positive : 0 < count) (room : n < tenTo count) (rest : List Char) :
    takeDigits count (padded count n ++ rest) = some (n, rest) := by
  have length := length_padded positive room
  have digits : (padded count n).all Char.isDigit = true :=
    List.all_eq_true.mpr fun _ member => isDigit_of_mem_padded member
  simp [takeDigits, List.take_left' length, List.drop_left' length, length, digits, ofDigitChars_padded]

/-- A list without what it has at its end, as far as a test holds, and what it has there. -/
theorem eq_append_of_dropWhile_reverse {α : Type} (test : α → Bool) (items : List α) :
    ∃ dropped, (∀ item ∈ dropped, test item = true) ∧
      items = (items.reverse.dropWhile test).reverse ++ dropped := by
  refine ⟨(items.reverse.takeWhile test).reverse, fun item member => ?_, ?_⟩
  · exact List.mem_takeWhile_imp (List.mem_reverse.mp member)
  · rw [← List.reverse_append, List.takeWhile_append_dropWhile, List.reverse_reverse]

/-- The digits of nanoseconds are the first of nine, and the others of them are zeros. -/
theorem padded_eq_subsecondDigits_append {nanosecond : Nat} (room : nanosecond < 1000000000) :
    padded 9 nanosecond =
      subsecondDigits nanosecond ++ List.replicate (9 - (subsecondDigits nanosecond).length) '0' := by
  have length : (padded 9 nanosecond).length = 9 := length_padded (by decide) room
  obtain ⟨zeros, all, whole⟩ := eq_append_of_dropWhile_reverse (· = '0') (padded 9 nanosecond)
  have repeated : zeros = List.replicate zeros.length '0' :=
    List.eq_replicate_of_mem fun c member => by simpa using all c member
  unfold subsecondDigits
  split
  · rename_i none
    rw [none, List.nil_append] at whole
    rw [whole] at length ⊢
    rw [repeated, length]
    rfl
  · have counted := congrArg List.length whole
    rw [List.length_append, length] at counted
    rw [show 9 - ((padded 9 nanosecond).reverse.dropWhile (· = '0')).reverse.length = zeros.length by omega, ← repeated]
    exact whole

theorem subsecondDigits_ne_nil (nanosecond : Nat) : subsecondDigits nanosecond ≠ [] := by
  unfold subsecondDigits
  split
  · exact List.cons_ne_nil _ _
  · assumption

theorem isDigit_of_mem_subsecondDigits {nanosecond : Nat} (room : nanosecond < 1000000000) {c : Char}
    (member : c ∈ subsecondDigits nanosecond) : c.isDigit = true :=
  isDigit_of_mem_padded (padded_eq_subsecondDigits_append room ▸ List.mem_append_left _ member)

/-- The digits of nanoseconds give the nanoseconds, if no digit comes behind them. -/
theorem takeSubsecond_subsecondDigits {nanosecond : Nat} (room : nanosecond < 1000000000) {rest : List Char}
    (stops : StopsDigits rest) : takeSubsecond (subsecondDigits nanosecond ++ rest) = some (nanosecond, rest) := by
  have digits (c : Char) (member : c ∈ subsecondDigits nanosecond) : c.isDigit = true :=
    isDigit_of_mem_subsecondDigits room member
  have whole := padded_eq_subsecondDigits_append room
  have length : (padded 9 nanosecond).length = 9 := length_padded (by decide) room
  have short : (subsecondDigits nanosecond).length ≤ 9 := by
    rw [← length, whole, List.length_append]
    exact Nat.le_add_right ..
  have nine : (subsecondDigits nanosecond ++ List.replicate 9 '0').take 9 = padded 9 nanosecond := by
    have zeros : List.replicate 9 '0' = List.replicate (9 - (subsecondDigits nanosecond).length) '0' ++
        List.replicate (subsecondDigits nanosecond).length '0' := by
      rw [List.replicate_append_replicate, Nat.sub_add_cancel short]
    rw [zeros, ← List.append_assoc, ← whole, List.take_left' length]
  simp only [takeSubsecond, List.takeWhile_append_of_pos digits, List.dropWhile_append_of_pos digits,
    stops.takeWhile_eq_nil, stops.dropWhile_eq, List.append_nil, nine, ofDigitChars_padded]
  simp [subsecondDigits_ne_nil]

end Polystore.Calendar
