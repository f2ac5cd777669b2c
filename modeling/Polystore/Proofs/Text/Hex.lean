import Polystore.Proofs.Uuid
import Polystore.Text.Hex

/-!
Bytes come back from their hexadecimal digits. A digit is a character of one byte, so that the text of a byte is two
bytes, which the reader takes as a pair.
-/
namespace Polystore.Text.Hex

/-- The byte that a digit is in a text. -/
def digitByte (n : Nat) : UInt8 := UInt8.ofNat (digit n).toNat

theorem utf8EncodeChar_digit {n : Nat} (small : n < 16) : String.utf8EncodeChar (digit n) = [digitByte n] := by
  revert n
  decide +kernel

theorem nibble_digitByte {n : Nat} (small : n < 16) (position : Nat) : nibble (digitByte n) position = .ok n := by
  have shown : Char.ofNat (digitByte n).toNat = digit n := by
    revert n
    decide +kernel
  rw [nibble, shown, digit, Uuid.digitValue?_digitChar small]

/-- The halves of a byte are digits. -/
theorem half_lt (b : UInt8) : b.toNat / 16 < 16 ∧ b.toNat % 16 < 16 := by
  have bound := b.toNat_lt
  omega

/-- The text of a byte, as bytes. -/
def byteText (b : UInt8) : List UInt8 := [digitByte (b.toNat / 16), digitByte (b.toNat % 16)]

theorem bytesOf_encode (bytes : List UInt8) : bytesOf (encode bytes) = bytes.flatMap byteText := by
  rw [bytesOf, encode, String.toList_ofList, List.flatMap_assoc]
  congr 1
  funext b
  obtain ⟨high, low⟩ := half_lt b
  simp [byteDigits, byteText, utf8EncodeChar_digit high, utf8EncodeChar_digit low]

theorem decodePairs_digits (bytes : List UInt8) (position : Nat) :
    decodePairs position (bytes.flatMap byteText) = .ok bytes := by
  induction bytes generalizing position with
  | nil => rfl
  | cons b rest ih =>
    obtain ⟨high, low⟩ := half_lt b
    have whole : b.toNat / 16 * 16 + b.toNat % 16 = b.toNat := by omega
    rw [List.flatMap_cons, byteText, List.cons_append, List.cons_append, List.nil_append, decodePairs,
      nibble_digitByte high, nibble_digitByte low, ih]
    calc
      _ = Except.ok (UInt8.ofNat (b.toNat / 16 * 16 + b.toNat % 16) :: rest) := rfl
      _ = Except.ok (b :: rest) := by rw [whole, UInt8.ofNat_toNat]

/-- Bytes are read from their digits. -/
theorem decode_encode (bytes : List UInt8) : decode (encode bytes) = .ok bytes := by
  have even : (bytesOf (encode bytes)).length % 2 ≠ 1 := by
    simp [bytesOf_encode, List.length_flatMap, byteText, List.map_const']
  rw [decode, if_neg even, bytesOf_encode, decodePairs_digits]

theorem mem_encode {bytes : List UInt8} {c : Char} (member : c ∈ (encode bytes).toList) :
    ∃ n < 16, c = Nat.digitChar n := by
  rw [encode, String.toList_ofList] at member
  obtain ⟨b, _, shown⟩ := List.mem_flatMap.mp member
  obtain ⟨high, low⟩ := half_lt b
  rcases List.mem_cons.mp shown with first | second
  · exact ⟨_, high, first⟩
  · exact ⟨_, low, List.mem_singleton.mp second⟩

theorem isBlank_of_mem_encode {bytes : List UInt8} {c : Char} (member : c ∈ (encode bytes).toList) :
    isBlank c = false := by
  obtain ⟨n, small, rfl⟩ := mem_encode member
  exact Uuid.isBlank_digitChar small

end Polystore.Text.Hex
