import Mathlib.Tactic.SplitIfs
import Polystore.Text.Bytes

/-!
Texts and their bytes. A character is read from its bytes, whatever stands behind them, so that a text comes back from
its bytes, also by the lenient reader. What the lenient reader takes together begins anywhere, but goes on with bytes
that only follow others; therefore a byte in front of others makes at most one character more.
-/
namespace Polystore.Text

/-- What holds of the first 256 numbers as bytes holds of all bytes. -/
theorem forall_byte {p : UInt8 → Prop} (each : ∀ n < 256, p (UInt8.ofNat n)) : ∀ b, p b := by
  intro b
  have shown := each b.toNat b.toNat_lt
  rwa [UInt8.ofNat_toNat] at shown

theorem forall_char_lt {bound : Nat} {p : Char → Prop} (each : ∀ n < bound, p (Char.ofNat n)) :
    ∀ c : Char, c.toNat < bound → p c := by
  intro c below
  have shown := each c.toNat below
  rwa [Char.ofNat_toNat] at shown

/-! ### One character -/

/-- Whether a byte may stand behind the first of a character. -/
def isSecond (first b : UInt8) : Bool := (secondRange first).1 ≤ b && b ≤ (secondRange first).2

theorem front_one {first : UInt8} (one : charLength first = 1) (rest : List UInt8) :
    front first rest = .character (Char.ofNat first.toNat) 1 := by
  unfold front
  rw [one]
  rfl

theorem front_two {first b : UInt8} (two : charLength first = 2) (second : isSecond first b = true)
    (rest : List UInt8) :
    front first (b :: rest) = .character (Char.ofNat (first.toNat % 32 * 64 + b.toNat % 64)) 2 := by
  rw [isSecond] at second
  unfold front
  rw [two]
  simp only [second, if_true]
  rfl

theorem front_three {first b c : UInt8} (three : charLength first = 3) (second : isSecond first b = true)
    (third : isTail c = true) (rest : List UInt8) : front first (b :: c :: rest) =
      .character (Char.ofNat ((first.toNat % 16 * 64 + b.toNat % 64) * 64 + c.toNat % 64)) 3 := by
  rw [isSecond] at second
  unfold front
  rw [three]
  simp only [second, third, Bool.not_true, Bool.false_eq_true, if_false]
  rfl

theorem front_four {first b c d : UInt8} (four : charLength first = 4) (second : isSecond first b = true)
    (third : isTail c = true) (fourth : isTail d = true) (rest : List UInt8) : front first (b :: c :: d :: rest) =
      .character (Char.ofNat (((first.toNat % 8 * 64 + b.toNat % 64) * 64 + c.toNat % 64) * 64 + d.toNat % 64)) 4 := by
  rw [isSecond] at second
  unfold front
  rw [four]
  simp only [second, third, fourth, Bool.not_true, Bool.false_eq_true, if_false]
  rfl

/-! The bytes of a character by the bits that they carry. -/

theorem tail_of_bits : ∀ bits < 64, isTail (UInt8.ofNat (bits + 128)) = true ∧
    (UInt8.ofNat (bits + 128)).toNat % 64 = bits := by
  decide +kernel

theorem first_of_one : ∀ bits < 128, charLength (UInt8.ofNat bits) = 1 ∧ (UInt8.ofNat bits).toNat = bits := by
  decide +kernel

theorem first_of_two : ∀ bits < 32, 2 ≤ bits → charLength (UInt8.ofNat (bits + 192)) = 2 ∧
    (UInt8.ofNat (bits + 192)).toNat % 32 = bits ∧
      ∀ next < 64, isSecond (UInt8.ofNat (bits + 192)) (UInt8.ofNat (next + 128)) = true := by
  decide +kernel

theorem first_of_three : ∀ bits < 16, charLength (UInt8.ofNat (bits + 224)) = 3 ∧
    (UInt8.ofNat (bits + 224)).toNat % 16 = bits ∧ ∀ next < 64, (bits = 0 → 32 ≤ next) → (bits = 13 → next < 32) →
      isSecond (UInt8.ofNat (bits + 224)) (UInt8.ofNat (next + 128)) = true := by
  decide +kernel

theorem first_of_four : ∀ bits < 5, charLength (UInt8.ofNat (bits + 240)) = 4 ∧
    (UInt8.ofNat (bits + 240)).toNat % 8 = bits ∧ ∀ next < 64, (bits = 0 → 16 ≤ next) → (bits = 4 → next < 16) →
      isSecond (UInt8.ofNat (bits + 240)) (UInt8.ofNat (next + 128)) = true := by
  decide +kernel

/-- A character is read from its bytes, whatever stands behind. -/
theorem front_utf8EncodeChar (c : Char) (behind : List UInt8) : ∃ first tail,
    String.utf8EncodeChar c = first :: tail ∧ front first (tail ++ behind) = .character c (tail.length + 1) := by
  have same (n : Nat) (whole : n = c.val.toNat) : Char.ofNat n = c := by
    rw [whole]
    exact Char.ofNat_toNat c
  -- There are no characters where the second byte would be out of the range that the first one sets.
  have range : c.val.toNat < 0xD800 ∨ 0xDFFF < c.val.toNat ∧ c.val.toNat < 0x110000 := c.valid
  unfold String.utf8EncodeChar
  generalize c.val.toNat = v at same range
  simp only
  split
  · obtain ⟨one, whole⟩ := first_of_one v (by omega)
    refine ⟨_, _, rfl, ?_⟩
    rw [front_one one, same _ whole]
    rfl
  split
  · obtain ⟨two, high, second⟩ := first_of_two (v / 64 % 32) (by omega) (by omega)
    obtain ⟨-, low⟩ := tail_of_bits (v % 64) (by omega)
    refine ⟨_, _, rfl, ?_⟩
    rw [List.singleton_append, front_two two (second (v % 64) (by omega)), high, low, same _ (by omega)]
    rfl
  split
  · obtain ⟨three, high, second⟩ := first_of_three (v / 4096 % 16) (by omega)
    obtain ⟨-, middle⟩ := tail_of_bits (v / 64 % 64) (by omega)
    obtain ⟨third, low⟩ := tail_of_bits (v % 64) (by omega)
    refine ⟨_, _, rfl, ?_⟩
    rw [List.cons_append, List.singleton_append,
      front_three three (second (v / 64 % 64) (by omega) (by omega) (by omega)) third, high, middle, low,
      same _ (by omega)]
    rfl
  · obtain ⟨four, high, second⟩ := first_of_four (v / 262144 % 8) (by omega)
    obtain ⟨-, upper⟩ := tail_of_bits (v / 4096 % 64) (by omega)
    obtain ⟨third, middle⟩ := tail_of_bits (v / 64 % 64) (by omega)
    obtain ⟨fourth, low⟩ := tail_of_bits (v % 64) (by omega)
    refine ⟨_, _, rfl, ?_⟩
    rw [List.cons_append, List.cons_append, List.singleton_append,
      front_four four (second (v / 4096 % 64) (by omega) (by omega) (by omega)) third fourth, high, upper, middle, low,
      same _ (by omega)]
    rfl

/-! ### Texts -/

theorem bytesOf_ofList (chars : List Char) : bytesOf (String.ofList chars) = chars.flatMap String.utf8EncodeChar := by
  rw [bytesOf, String.toList_ofList]

theorem decodeFrom_encoded (position : Nat) (chars : List Char) :
    decodeFrom position (chars.flatMap String.utf8EncodeChar) = .ok chars := by
  induction chars generalizing position with
  | nil => rw [List.flatMap_nil, decodeFrom]
  | cons c rest ih =>
    obtain ⟨first, tail, bytes, read⟩ := front_utf8EncodeChar c (rest.flatMap String.utf8EncodeChar)
    rw [List.flatMap_cons, bytes, List.cons_append, decodeFrom, read]
    simp only [Nat.add_sub_cancel, List.drop_left, ih]
    rfl

/-- A text comes back from its bytes. -/
theorem decodeBytes_bytesOf (text : String) : decodeBytes (bytesOf text) = .ok text := by
  rw [decodeBytes, bytesOf, decodeFrom_encoded]
  exact congrArg Except.ok String.ofList_toList

theorem decodeLenientChars_append (c : Char) (behind : List UInt8) :
    decodeLenientChars (String.utf8EncodeChar c ++ behind) = c :: decodeLenientChars behind := by
  obtain ⟨first, tail, bytes, read⟩ := front_utf8EncodeChar c behind
  rw [bytes, List.cons_append, decodeLenientChars, read]
  simp only [Nat.add_sub_cancel, List.drop_left]

theorem decodeLenientChars_encoded (chars : List Char) :
    decodeLenientChars (chars.flatMap String.utf8EncodeChar) = chars := by
  induction chars with
  | nil => rw [List.flatMap_nil, decodeLenientChars]
  | cons c rest ih => rw [List.flatMap_cons, decodeLenientChars_append, ih]

/-! ### Any bytes -/

theorem isTail_of_isSecond {first b : UInt8} (second : isSecond first b = true) : isTail b = true := by
  unfold isSecond secondRange at second
  simp only [isTail, Bool.and_eq_true, decide_eq_true_eq, UInt8.le_iff_toNat_le] at second ⊢
  split_ifs at second <;> simp at second ⊢ <;> omega

/-- How many bytes are taken together. -/
def Front.taken : Front → Nat
  | .character _ length => length
  | .invalid length => length
  | .incomplete => 1

/-- All bytes that are taken with a first one only follow others. -/
theorem isTail_of_mem_taken {first b : UInt8} {rest : List UInt8}
    (member : b ∈ rest.take ((front first rest).taken - 1)) : isTail b = true := by
  have second (b : UInt8)
      (inRange : (decide ((secondRange first).1 ≤ b) && decide (b ≤ (secondRange first).2)) = true) :
      isTail b = true := isTail_of_isSecond inRange
  unfold front at member
  simp only at member
  repeat' split at member
  all_goals simp only [Front.taken, Nat.sub_self, Nat.reduceSub, List.take_zero, List.take_succ_cons, List.mem_cons,
    List.not_mem_nil, or_false] at member
  all_goals grind

theorem front_of_isTail {b : UInt8} (tail : isTail b = true) (rest : List UInt8) : front b rest = .invalid 1 := by
  have none : ∀ b : UInt8, isTail b = true → charLength b = 0 := forall_byte (by decide +kernel)
  unfold front
  rw [none b tail]
  rfl

/-- A byte that follows others is replaced where it stands first. -/
theorem decodeLenientChars_of_isTail {b : UInt8} (tail : isTail b = true) (rest : List UInt8) :
    decodeLenientChars (b :: rest) = replacement :: decodeLenientChars rest := by
  rw [decodeLenientChars, front_of_isTail tail]
  rfl

theorem length_decodeLenientChars_drop {count : Nat} {bytes : List UInt8}
    (tails : ∀ b ∈ bytes.take count, isTail b = true) :
    (decodeLenientChars (bytes.drop count)).length ≤ (decodeLenientChars bytes).length := by
  induction count generalizing bytes with
  | zero => exact Nat.le_refl _
  | succ count ih =>
    cases bytes with
    | nil => exact Nat.le_refl _
    | cons b rest =>
      obtain ⟨tail, others⟩ := List.forall_mem_cons.mp tails
      rw [decodeLenientChars_of_isTail tail, List.drop_succ_cons, List.length_cons]
      exact Nat.le_succ_of_le (ih others)

/-- One byte more makes at most one character more. -/
theorem length_decodeLenientChars_cons_le (first : UInt8) (rest : List UInt8) :
    (decodeLenientChars (first :: rest)).length ≤ (decodeLenientChars rest).length + 1 := by
  have dropped : (decodeLenientChars (rest.drop ((front first rest).taken - 1))).length ≤
      (decodeLenientChars rest).length := length_decodeLenientChars_drop fun _ => isTail_of_mem_taken
  rw [decodeLenientChars]
  cases read : front first rest with
  | character c length =>
    rw [read] at dropped
    exact Nat.succ_le_succ dropped
  | invalid length =>
    rw [read] at dropped
    exact Nat.succ_le_succ dropped
  | incomplete => exact Nat.le_add_left ..

end Polystore.Text
