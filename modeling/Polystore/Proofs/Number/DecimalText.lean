import Polystore.Number.DecimalText
import Polystore.Proofs.Calendar.Digits
import Polystore.Text.Blank

/-!
Decimals come back from their texts. The reader takes digit after digit; the digits of a decimal leave it room in the
coefficient and in the scale up to the last, so that nothing is rounded. Of a zero the sign is lost.
-/
namespace Polystore

open Calendar

theorem le_ofDigitChars (digits : List Char) (number : Nat) : number ≤ Nat.ofDigitChars 10 digits number := by
  rw [Nat.ofDigitChars_eq_ofDigitChars_zero]
  exact Nat.le_add_right_of_le (Nat.le_mul_of_pos_left _ (Nat.pow_pos (by decide)))

namespace DecimalText

/-- Digits are taken as long as the coefficient and the scale have room for them. -/
theorem read_append {digits : List Char} (each : ∀ c ∈ digits, c.isDigit = true) (negative : Bool) (reading : Reading)
    (room : Nat.ofDigitChars 10 digits reading.coefficient < Decimal.capacity)
    (places : reading.pointSeen = true → reading.scale + digits.length ≤ Decimal.maxScale) (rest : List Char) :
    read negative reading (digits ++ rest) = read negative
      ⟨reading.pointSeen, reading.digitSeen || !digits.isEmpty, Nat.ofDigitChars 10 digits reading.coefficient,
        reading.scale + reading.pointSeen.toNat * digits.length⟩ rest := by
  induction digits generalizing reading with
  | nil => simp
  | cons c digits ih =>
    obtain ⟨first, others⟩ := List.forall_mem_cons.mp each
    rw [Nat.ofDigitChars_cons, Nat.mul_comm] at room
    have next : reading.coefficient * 10 + (c.toNat - '0'.toNat) < Decimal.capacity :=
      Nat.lt_of_le_of_lt (le_ofDigitChars digits _) room
    have notFull : reading.isFull = false := by
      cases seen : reading.pointSeen with
      | false => simp [Reading.isFull, seen]
      | true =>
        have more := places seen
        rw [List.length_cons] at more
        simp only [Reading.isFull, seen, Bool.true_and, decide_eq_false_iff_not]
        omega
    rw [List.cons_append, read, notFull, if_neg Bool.false_ne_true, if_pos first]
    simp only [next, if_true]
    rw [ih others _ room]
    · simp [Nat.ofDigitChars_cons, Nat.mul_comm 10, Nat.mul_add, Nat.add_assoc, Nat.add_comm]
    · intro seen
      have more := places seen
      rw [List.length_cons] at more
      simp only [show reading.pointSeen = true from seen, Bool.toNat_true]
      omega

theorem read_point {reading : Reading} (before : reading.pointSeen = false) (negative : Bool) (rest : List Char) :
    read negative reading ('.' :: rest) = read negative { reading with pointSeen := true } rest := by
  simp [read, Reading.isFull, before]

end DecimalText

namespace Decimal

open DecimalText

/-- The decimal as it is read from its text: the sign of a zero is lost. -/
def signlessZero (x : Decimal) : Decimal := { x with negative := x.negative && x.coefficient ≠ 0 }

theorem same_signlessZero (x : Decimal) : x.signlessZero.same x = true := by
  have number : x.signlessZero.signed = x.signed := by
    by_cases zero : x.coefficient = 0 <;> simp [signed, signlessZero, zero]
  have scale : x.signlessZero.scale = x.scale := rfl
  simp [same, compare, number, scale]

theorem ofMagnitude?_coefficient (x : Decimal) :
    ofMagnitude? x.negative x.coefficient x.scale = some x.signlessZero := by
  rw [ofMagnitude?, ofParts?, dif_pos ⟨x.coefficient_lt, x.scale_le⟩]
  rfl

variable (x : Decimal)

/-- The digits of a decimal, at least one of them before the point. -/
def digits : List Char := padded (x.scale + 1) x.coefficient

def wholeDigits : List Char := x.digits.take (x.digits.length - x.scale)

def fractionDigits : List Char := x.digits.drop (x.digits.length - x.scale)

/-- The text of a decimal without its sign. -/
def magnitudeText : List Char := x.wholeDigits ++ if x.scale = 0 then [] else '.' :: x.fractionDigits

theorem toList_text : x.text.toList = (if x.negative then ['-'] else []) ++ x.magnitudeText := by
  rw [text, String.toList_ofList, List.append_assoc]
  rfl

theorem scale_lt_length_digits : x.scale < x.digits.length := by
  simp only [digits, padded, List.length_append, List.length_replicate]
  omega

theorem wholeDigits_append : x.wholeDigits ++ x.fractionDigits = x.digits := List.take_append_drop ..

theorem length_fractionDigits : x.fractionDigits.length = x.scale := by
  have more := x.scale_lt_length_digits
  rw [fractionDigits, List.length_drop]
  omega

theorem wholeDigits_ne_nil : x.wholeDigits ≠ [] := by
  have more := x.scale_lt_length_digits
  intro none
  have length := congrArg List.length none
  rw [wholeDigits, List.length_take, List.length_nil] at length
  omega

theorem isDigit_of_mem_wholeDigits {c : Char} (member : c ∈ x.wholeDigits) : c.isDigit = true :=
  isDigit_of_mem_padded (List.mem_of_mem_take member)

theorem isDigit_of_mem_fractionDigits {c : Char} (member : c ∈ x.fractionDigits) : c.isDigit = true :=
  isDigit_of_mem_padded (List.mem_of_mem_drop member)

/-- The digits before the point and then those behind it make the coefficient. -/
theorem ofDigitChars_fractionDigits :
    Nat.ofDigitChars 10 x.fractionDigits (Nat.ofDigitChars 10 x.wholeDigits 0) = x.coefficient := by
  rw [← Nat.ofDigitChars_append, wholeDigits_append, digits, ofDigitChars_padded]

theorem read_magnitudeText (negative : Bool) :
    read negative ⟨false, false, 0, 0⟩ x.magnitudeText = ofMagnitude? negative x.coefficient x.scale := by
  have room : Nat.ofDigitChars 10 x.wholeDigits 0 < capacity := by
    refine Nat.lt_of_le_of_lt (le_ofDigitChars x.fractionDigits _) ?_
    rw [ofDigitChars_fractionDigits]
    exact x.coefficient_lt
  have seen : (!x.wholeDigits.isEmpty) = true := by simp [x.wholeDigits_ne_nil]
  rw [magnitudeText, read_append (fun _ => x.isDigit_of_mem_wholeDigits) negative _ room (by simp)]
  split
  · rename_i whole
    have none : x.fractionDigits = [] := List.eq_nil_of_length_eq_zero (x.length_fractionDigits.trans whole)
    have coefficient := x.ofDigitChars_fractionDigits
    rw [none, Nat.ofDigitChars_nil] at coefficient
    simp [DecimalText.read, Reading.finish, seen, coefficient, whole]
  · have places : x.fractionDigits.length ≤ maxScale := x.length_fractionDigits ▸ x.scale_le
    have front := x.ofDigitChars_fractionDigits ▸ x.coefficient_lt
    rw [read_point rfl, ← List.append_nil x.fractionDigits,
      read_append (fun _ => x.isDigit_of_mem_fractionDigits) negative _ front (by simpa using places)]
    simp [DecimalText.read, Reading.finish, seen, ofDigitChars_fractionDigits, length_fractionDigits]

theorem mem_text {c : Char} (member : c ∈ x.text.toList) : c = '-' ∨ c = '.' ∨ c.isDigit = true := by
  rw [toList_text, magnitudeText] at member
  rcases List.mem_append.mp member with sign | magnitude
  · left
    split at sign
    · exact List.mem_singleton.mp sign
    · cases sign
  · right
    rcases List.mem_append.mp magnitude with whole | behind
    · exact .inr (x.isDigit_of_mem_wholeDigits whole)
    · split at behind
      · cases behind
      · exact (List.mem_cons.mp behind).imp_right x.isDigit_of_mem_fractionDigits

theorem isBlank_of_mem_text {x : Decimal} {c : Char} (member : c ∈ x.text.toList) : Text.isBlank c = false := by
  rcases x.mem_text member with rfl | rfl | digit
  · rfl
  · rfl
  · exact Text.isBlank_of_isDigit digit

theorem readPlain_text :
    readPlain x.text.toList = DecimalText.read x.negative ⟨false, false, 0, 0⟩ x.magnitudeText := by
  rw [toList_text]
  cases x.negative with
  | true => rfl
  | false =>
    obtain ⟨c, rest, whole⟩ := List.exists_cons_of_ne_nil x.wholeDigits_ne_nil
    have digit : c.isDigit = true := x.isDigit_of_mem_wholeDigits (whole ▸ List.mem_cons_self)
    rw [if_neg Bool.false_ne_true, List.nil_append, magnitudeText, whole, List.cons_append, readPlain]
    · rintro _ ⟨rfl, _⟩
      cases digit
    · rintro _ ⟨rfl, _⟩
      cases digit

/-- A decimal is read from its text, but for the sign of a zero. -/
theorem parse_text : DecimalText.parse x.text.toList = some x.signlessZero := by
  have unmarked : (x.text.toList.any fun c => c = 'e' || c = 'E') = false := by
    rw [List.any_eq_false]
    intro c member marked
    rcases x.mem_text member with rfl | rfl | digit
    · cases marked
    · cases marked
    · have mark : c = 'e' ∨ c = 'E' := by simpa using marked
      rcases mark with rfl | rfl <;> cases digit
  rw [DecimalText.parse, unmarked, if_neg Bool.false_ne_true, readPlain_text, read_magnitudeText,
    ofMagnitude?_coefficient]

end Decimal

end Polystore
