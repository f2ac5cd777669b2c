import Polystore.Proofs.Text.Bytes
import Polystore.Text.Percent

/-!
Percent escapes, character by character. Decoding goes through a text from its front: a sign with two digits behind it
is a byte, and all else stays. So a text comes back from its encoded form, and a text without escapes is not changed.
-/
namespace Polystore.Text.Percent

/-! ### Characters and their bytes -/

theorem utf8EncodeChar_of_ascii {c : Char} (ascii : c.toNat < 128) :
    String.utf8EncodeChar c = [UInt8.ofNat c.toNat] := by
  have small : c.val.toNat ≤ 127 := Nat.le_of_lt_succ ascii
  unfold String.utf8EncodeChar
  simp only [if_pos small]
  rfl

theorem ofNat_toNat_of_ascii {c : Char} (ascii : c.toNat < 128) : Char.ofNat (UInt8.ofNat c.toNat).toNat = c := by
  rw [UInt8.toNat_ofNat_of_lt' (Nat.lt_trans ascii (by decide)), Char.ofNat_toNat]

/-- The bytes of a character beyond ASCII are beyond ASCII. -/
theorem le_of_mem_utf8EncodeChar {c : Char} (beyond : 128 ≤ c.toNat) :
    ∀ b ∈ String.utf8EncodeChar c, 128 ≤ b.toNat := by
  have large : ¬ c.val.toNat ≤ 127 := Nat.not_le.mpr beyond
  unfold String.utf8EncodeChar
  simp only [if_neg large]
  split_ifs <;> simp only [List.forall_mem_cons, UInt8.toNat_ofNat', List.not_mem_nil, false_implies, implies_true,
    and_true] <;> omega

/-- The value of a digit, given as a byte. -/
def digit? (b : UInt8) : Option Nat := Hex.digitValue? (Char.ofNat b.toNat)

theorem byteOf?_eq (high low : UInt8) :
    byteOf? high low = (digit? high).bind fun h => (digit? low).bind fun l => some (UInt8.ofNat (h * 16 + l)) := rfl

theorem digit?_of_le : ∀ b : UInt8, 128 ≤ b.toNat → digit? b = none := forall_byte (by decide +kernel)

theorem lt_of_digitValue? {c : Char} {value : Nat} (digit : Hex.digitValue? c = some value) : c.toNat < 128 := by
  have below (last : Char) (small : last.toNat < 128) (upTo : c ≤ last) : c.toNat < 128 :=
    Nat.lt_of_le_of_lt (UInt32.le_iff_toNat_le.mp upTo) small
  unfold Hex.digitValue? at digit
  simp only [Bool.and_eq_true, decide_eq_true_eq] at digit
  split_ifs at digit with decimal small large
  · exact below '9' (by decide) decimal.2
  · exact below 'f' (by decide) small.2
  · exact below 'F' (by decide) large.2

/-- What begins with a digit is seen from the first byte. -/
theorem digit?_front (c : Char) : ∃ first tail, String.utf8EncodeChar c = first :: tail ∧
    digit? first = Hex.digitValue? c ∧ (Hex.digitValue? c ≠ none → tail = []) := by
  by_cases ascii : c.toNat < 128
  · refine ⟨_, _, utf8EncodeChar_of_ascii ascii, ?_, fun _ => rfl⟩
    rw [digit?, ofNat_toNat_of_ascii ascii]
  · obtain ⟨first, tail, bytes, -⟩ := front_utf8EncodeChar c []
    have beyond : 128 ≤ first.toNat :=
      le_of_mem_utf8EncodeChar (Nat.le_of_not_lt ascii) first (bytes ▸ List.mem_cons_self ..)
    have none : Hex.digitValue? c = none := by
      cases digit : Hex.digitValue? c with
      | none => rfl
      | some value => exact absurd (lt_of_digitValue? digit) ascii
    exact ⟨first, tail, bytes, (digit?_of_le first beyond).trans none.symm, fun some => absurd none some⟩

/-! ### Decoding from the front -/

theorem decode_cons {first : UInt8} (plain : first ≠ 0x25) (rest : List UInt8) :
    decode (first :: rest) = first :: decode rest := by
  rcases rest with _ | ⟨high, _ | ⟨low, rest⟩⟩
  · rfl
  · rfl
  · rw [decode, if_neg plain]

theorem decode_append {bytes : List UInt8} (plain : ∀ b ∈ bytes, b ≠ 0x25) (rest : List UInt8) :
    decode (bytes ++ rest) = bytes ++ decode rest := by
  induction bytes with
  | nil => rfl
  | cons first more ih =>
    obtain ⟨here, later⟩ := List.forall_mem_cons.mp plain
    rw [List.cons_append, decode_cons here, ih later, List.cons_append]

theorem decode_pair {high low b : UInt8} (pair : byteOf? high low = some b) (rest : List UInt8) :
    decode (0x25 :: high :: low :: rest) = b :: decode rest := by
  rw [decode, if_pos rfl, pair]

/-- The bytes of a text with its escapes decoded. -/
def unescaped (text : List Char) : List UInt8 := decode (text.flatMap String.utf8EncodeChar)

/-- The byte that two digits at the front of a text name. -/
def pair? : List Char → Option UInt8
  | high :: low :: _ =>
    (Hex.digitValue? high).bind fun h => (Hex.digitValue? low).bind fun l => some (UInt8.ofNat (h * 16 + l))
  | _ => none

theorem utf8EncodeChar_plain {c : Char} (plain : c ≠ '%') : ∀ b ∈ String.utf8EncodeChar c, b ≠ 0x25 := by
  by_cases ascii : c.toNat < 128
  · rw [utf8EncodeChar_of_ascii ascii]
    intro b member same
    refine plain ?_
    rw [← ofNat_toNat_of_ascii ascii, ← List.mem_singleton.mp member, same]
    rfl
  · intro b member same
    have beyond := le_of_mem_utf8EncodeChar (Nat.le_of_not_lt ascii) b member
    rw [same] at beyond
    revert beyond
    decide

theorem unescaped_char {c : Char} (plain : c ≠ '%') (rest : List Char) :
    unescaped (c :: rest) = String.utf8EncodeChar c ++ unescaped rest :=
  decode_append (utf8EncodeChar_plain plain) _

theorem unescaped_pair {rest : List Char} {b : UInt8} (pair : pair? rest = some b) :
    unescaped ('%' :: rest) = b :: unescaped (rest.drop 2) := by
  match rest, pair with
  | high :: low :: rest, pair =>
    obtain ⟨h, highDigit, pair⟩ := Option.bind_eq_some_iff.mp pair
    obtain ⟨l, lowDigit, pair⟩ := Option.bind_eq_some_iff.mp pair
    have highAscii := lt_of_digitValue? highDigit
    have lowAscii := lt_of_digitValue? lowDigit
    have bytes : (high :: low :: rest).flatMap String.utf8EncodeChar =
        UInt8.ofNat high.toNat :: UInt8.ofNat low.toNat :: rest.flatMap String.utf8EncodeChar := by
      rw [List.flatMap_cons, List.flatMap_cons, utf8EncodeChar_of_ascii highAscii, utf8EncodeChar_of_ascii lowAscii]
      rfl
    have named : byteOf? (UInt8.ofNat high.toNat) (UInt8.ofNat low.toNat) = some b := by
      rw [byteOf?_eq, digit?, digit?, ofNat_toNat_of_ascii highAscii, ofNat_toNat_of_ascii lowAscii, highDigit,
        lowDigit]
      exact pair
    calc
      _ = decode (0x25 :: (high :: low :: rest).flatMap String.utf8EncodeChar) := rfl
      _ = b :: decode (rest.flatMap String.utf8EncodeChar) := by rw [bytes, decode_pair named]

theorem decode_sign {bytes : List UInt8}
    (alone : ∀ high low rest, bytes = high :: low :: rest → byteOf? high low = none) :
    decode (0x25 :: bytes) = 0x25 :: decode bytes := by
  rcases bytes with _ | ⟨high, _ | ⟨low, rest⟩⟩
  · rfl
  · rfl
  · rw [decode, if_pos rfl, alone high low rest rfl]

theorem unescaped_sign {rest : List Char} (alone : pair? rest = none) :
    unescaped ('%' :: rest) = 0x25 :: unescaped rest := by
  have signed : unescaped ('%' :: rest) = decode (0x25 :: rest.flatMap String.utf8EncodeChar) := rfl
  rw [signed, unescaped]
  refine decode_sign fun high low more bytes => ?_
  rw [byteOf?_eq]
  cases rest with
  | nil => cases bytes
  | cons c rest =>
    obtain ⟨first, tail, encoded, same, short⟩ := digit?_front c
    rw [List.flatMap_cons, encoded, List.cons_append, List.cons.injEq] at bytes
    rw [← bytes.1, same]
    cases highDigit : Hex.digitValue? c with
    | none => rfl
    | some h =>
      have one : tail = [] := short (by rw [highDigit]; exact Option.some_ne_none h)
      rw [one, List.nil_append] at bytes
      cases rest with
      | nil => cases bytes.2
      | cons d rest =>
        obtain ⟨second, tail, encoded, same, -⟩ := digit?_front d
        rw [List.flatMap_cons, encoded, List.cons_append, List.cons.injEq] at bytes
        have lowDigit : Hex.digitValue? d = none := by
          rw [pair?, highDigit] at alone
          cases lowDigit : Hex.digitValue? d with
          | none => rfl
          | some l =>
            rw [lowDigit] at alone
            cases alone
        rw [← bytes.2.1, same, lowDigit]
        rfl

/-! ### Texts without escapes -/

/-- Whether there is a sign with two digits behind it. -/
def hasEscape : List Char → Bool
  | [] => false
  | c :: rest => (c = '%' && (pair? rest).isSome) || hasEscape rest

theorem unescaped_of_plain {text : List Char} (plain : hasEscape text = false) :
    unescaped text = text.flatMap String.utf8EncodeChar := by
  induction text with
  | nil => rfl
  | cons c rest ih =>
    rw [hasEscape, Bool.or_eq_false_iff] at plain
    by_cases sign : c = '%'
    · subst sign
      have alone : pair? rest = none := by simpa using plain.1
      rw [unescaped_sign alone, ih plain.2]
      rfl
    · rw [unescaped_char sign, ih plain.2, List.flatMap_cons]

theorem le_length_of_pair? {rest : List Char} {b : UInt8} (pair : pair? rest = some b) : 2 ≤ rest.length := by
  rcases rest with _ | ⟨high, _ | ⟨low, rest⟩⟩
  · cases pair
  · cases pair
  · exact Nat.le_add_left ..

/-- Decoding makes no text longer, and a text with an escape shorter. -/
theorem length_decodeLenientChars_unescaped (text : List Char) :
    (decodeLenientChars (unescaped text)).length ≤ text.length ∧
      (hasEscape text = true → (decodeLenientChars (unescaped text)).length < text.length) := by
  cases text with
  | nil =>
    have nothing : unescaped [] = [] := rfl
    rw [nothing, decodeLenientChars]
    refine ⟨Nat.le_refl 0, fun escape => ?_⟩
    cases escape
  | cons c rest =>
    obtain ⟨shorter, strictly⟩ := length_decodeLenientChars_unescaped rest
    rw [hasEscape, List.length_cons]
    by_cases sign : c = '%'
    · subst sign
      cases pair : pair? rest with
      | some b =>
        have inside := (length_decodeLenientChars_unescaped (rest.drop 2)).1
        have one := length_decodeLenientChars_cons_le b (unescaped (rest.drop 2))
        have two := le_length_of_pair? pair
        rw [List.length_drop] at inside
        rw [unescaped_pair pair]
        exact ⟨by omega, fun _ => by omega⟩
      | none =>
        have shown : decodeLenientChars (0x25 :: unescaped rest) = '%' :: decodeLenientChars (unescaped rest) :=
          decodeLenientChars_append '%' (unescaped rest)
        rw [unescaped_sign pair, shown, List.length_cons]
        simpa using ⟨shorter, strictly⟩
    · rw [unescaped_char sign, decodeLenientChars_append, List.length_cons]
      simpa [sign] using ⟨shorter, strictly⟩
termination_by text.length

/-! ### Encoded texts -/

/-- The encoded form of a character. -/
def encodeChar (escaped : Char → Bool) (c : Char) : List Char :=
  (String.utf8EncodeChar c).flatMap (encodeByte escaped)

theorem toList_encode (escaped : Char → Bool) (text : String) :
    (encode escaped text).toList = text.toList.flatMap (encodeChar escaped) := by
  rw [encode, String.toList_ofList, bytesOf, List.flatMap_assoc]
  rfl

section Characters

variable {escaped : Char → Bool} {c : Char}

theorem encodeChar_kept (ascii : c.toNat < 128) (kept : escaped c = false) : encodeChar escaped c = [c] := by
  have small : UInt8.ofNat c.toNat < 0x80 := by
    rw [UInt8.lt_iff_toNat_lt, UInt8.toNat_ofNat_of_lt' (Nat.lt_trans ascii (by decide))]
    exact ascii
  rw [encodeChar, utf8EncodeChar_of_ascii ascii, List.flatMap_singleton, encodeByte, ofNat_toNat_of_ascii ascii, kept]
  simp [small]

theorem encodeChar_escaped (outside : c.toNat < 128 → escaped c = true) :
    encodeChar escaped c = (String.utf8EncodeChar c).flatMap escape := by
  by_cases ascii : c.toNat < 128
  · rw [encodeChar, utf8EncodeChar_of_ascii ascii, List.flatMap_singleton, List.flatMap_singleton, encodeByte,
      ofNat_toNat_of_ascii ascii, outside ascii]
    simp
  · refine congrArg List.flatten (List.map_congr_left fun b member => ?_)
    have beyond := le_of_mem_utf8EncodeChar (Nat.le_of_not_lt ascii) b member
    have large : ¬ b < 0x80 := by
      rw [UInt8.lt_iff_toNat_lt]
      exact Nat.not_lt.mpr beyond
    simp [encodeByte, large]

end Characters

/-- The digit of a byte as a byte itself. -/
def digitByte (n : Nat) : UInt8 := UInt8.ofNat (Hex.digit n).toUpper.toNat

theorem escape_bytes : ∀ b : UInt8, (escape b).flatMap String.utf8EncodeChar =
    [0x25, digitByte (b.toNat / 16), digitByte (b.toNat % 16)] ∧
      byteOf? (digitByte (b.toNat / 16)) (digitByte (b.toNat % 16)) = some b :=
  forall_byte (by decide +kernel)

theorem mem_escape (b : UInt8) : ∀ c ∈ escape b, c = '%' ∨ isUnreserved c = true := by
  have each : ∀ b, (escape b).all (fun c => c == '%' || isUnreserved c) = true := forall_byte (by decide +kernel)
  simpa using each b

theorem not_mem_escapes {mark : Char} (reserved : mark ≠ '%' ∧ isUnreserved mark = false) (bytes : List UInt8) :
    mark ∉ bytes.flatMap escape := by
  intro member
  obtain ⟨b, -, inside⟩ := List.mem_flatMap.mp member
  rcases mem_escape b mark inside with sign | unreserved
  · exact reserved.1 sign
  · rw [reserved.2] at unreserved
    cases unreserved

theorem decode_escapes (bytes more : List UInt8) :
    decode ((bytes.flatMap escape).flatMap String.utf8EncodeChar ++ more) = bytes ++ decode more := by
  induction bytes with
  | nil => rfl
  | cons b rest ih =>
    obtain ⟨shown, named⟩ := escape_bytes b
    rw [List.flatMap_cons, List.flatMap_append, shown, List.append_assoc, List.cons_append, List.cons_append,
      List.cons_append, List.nil_append, decode_pair named, ih, List.cons_append]

/-- A text comes back from its encoded form if the sign of escapes is escaped itself. -/
theorem decode_encoded {escaped : Char → Bool} (sign : escaped '%' = true) (text : List Char) (more : List UInt8) :
    decode ((text.flatMap (encodeChar escaped)).flatMap String.utf8EncodeChar ++ more) =
      text.flatMap String.utf8EncodeChar ++ decode more := by
  induction text with
  | nil => rfl
  | cons c rest ih =>
    rw [List.flatMap_cons, List.flatMap_append, List.append_assoc, List.flatMap_cons, List.append_assoc, ← ih]
    by_cases kept : c.toNat < 128 ∧ escaped c = false
    · have plain : c ≠ '%' := by
        rintro rfl
        rw [sign] at kept
        cases kept.2
      rw [encodeChar_kept kept.1 kept.2, List.flatMap_singleton, decode_append (utf8EncodeChar_plain plain)]
    · rw [encodeChar_escaped fun ascii => ?_, decode_escapes]
      simpa [ascii] using kept

theorem mem_encodeComponent {text : String} {c : Char} (member : c ∈ (encodeComponent text).toList) :
    c = '%' ∨ isUnreserved c = true := by
  rw [encodeComponent, toList_encode] at member
  obtain ⟨d, -, shown⟩ := List.mem_flatMap.mp member
  by_cases kept : d.toNat < 128 ∧ (!isUnreserved d) = false
  · rw [encodeChar_kept kept.1 kept.2] at shown
    rw [List.mem_singleton.mp shown]
    exact .inr (by simpa using kept.2)
  · rw [encodeChar_escaped fun ascii => by simpa [ascii] using kept] at shown
    obtain ⟨b, -, inside⟩ := List.mem_flatMap.mp shown
    exact mem_escape b c inside

end Polystore.Text.Percent
