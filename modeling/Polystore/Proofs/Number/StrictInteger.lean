import Polystore.Proofs.Number.IntegerText

/-!
The strict reader of integers. It adds digit after digit and stops at the first number that its kind does not have; as
numbers only grow, it accepts the digits of just those numbers that the kind has, with a plus in front or not.
-/
namespace Polystore.IntegerText

/-- The texts of a number without signs: at least one digit, and in front at most a plus. -/
inductive Counts : List Char → Nat → Prop where
  | intro {sign digits : List Char} (mark : sign = [] ∨ sign = ['+']) (some : digits ≠ [])
      (each : ∀ c ∈ digits, c.isDigit = true) : Counts (sign ++ digits) (Nat.ofDigitChars 10 digits 0)

theorem le_ofDigitChars (digits : List Char) (number : Nat) : number ≤ Nat.ofDigitChars 10 digits number := by
  induction digits generalizing number with
  | nil => exact Nat.le_refl number
  | cons c rest ih =>
    rw [Nat.ofDigitChars_cons]
    have further := ih (10 * number + (c.toNat - '0'.toNat))
    omega

/-- Digits are added up when they are digits and the kind has the number that they make. -/
theorem accumulate_eq_ok_iff {kind : IntKind} {value word : Word kind} {number : Nat} (start : value.val = number)
    {digits : List Char} : accumulate kind false value digits = .ok word ↔
      (∀ c ∈ digits, c.isDigit = true) ∧ word.val = Nat.ofDigitChars 10 digits number := by
  induction digits generalizing value number with
  | nil =>
    rw [accumulate, Except.ok.injEq]
    constructor
    · rintro rfl
      exact ⟨by simp, start⟩
    · exact fun ⟨_, same⟩ => Word.ext_val (start.trans same.symm)
  | cons c rest ih =>
    rw [accumulate, List.forall_mem_cons, Nat.ofDigitChars_cons]
    by_cases digit : c.isDigit = true
    · have added : addDigit false value.val c = ((10 * number + (c.toNat - '0'.toNat) : Nat) : Int) := by
        rw [start]
        exact addDigit_signed false number digit
      rw [digit, added, Bool.not_true, if_neg Bool.false_ne_true]
      cases room : Word.ofInt? kind ((10 * number + (c.toNat - '0'.toNat) : Nat) : Int) with
      | some next =>
        simp only [true_and]
        exact ih (Word.ofInt?_eq_some_iff.mp room)
      | none =>
        -- The number only grows, so the kind does not have what it grows into.
        simp only [Bool.false_eq_true, if_false, reduceCtorEq, true_and, false_iff, not_and]
        intro _ same
        have grown := le_ofDigitChars rest (10 * number + (c.toNat - '0'.toNat))
        have bounds := word.fits
        have least : kind.least ≤ 0 := by cases kind <;> decide
        have fits : kind.Fits ((10 * number + (c.toNat - '0'.toNat) : Nat) : Int) := by
          unfold IntKind.Fits at bounds ⊢
          omega
        rw [Word.ofInt?, dif_pos fits] at room
        cases room
    · simp [digit]

/-- Of the kinds without signs the strict reader reads just the texts of the numbers that the kind has. -/
theorem parse_eq_ok_iff {kind : IntKind} (unsigned : kind.isSigned = false) {text : String} {word : Word kind} :
    parse kind text = .ok word ↔ ∃ number : Nat, Counts text.toList number ∧ word.val = number := by
  unfold parse
  generalize text.toList = chars
  have fromZero (digits : List Char) : accumulate kind false (zero kind) digits = .ok word ↔
      (∀ c ∈ digits, c.isDigit = true) ∧ word.val = Nat.ofDigitChars 10 digits 0 := accumulate_eq_ok_iff rfl
  constructor
  · intro reads
    split at reads
    case h_1 | h_2 | h_3 => cases reads
    case h_4 rest notAlone =>
      obtain ⟨each, same⟩ := (fromZero rest).mp reads
      exact ⟨_, .intro (.inr rfl) notAlone each, same⟩
    case h_5 first rest _ _ _ =>
      rw [unsigned, Bool.and_false, if_neg Bool.false_ne_true] at reads
      obtain ⟨each, same⟩ := (fromZero _).mp reads
      exact ⟨_, .intro (.inl rfl) (List.cons_ne_nil first rest) each, same⟩
  · rintro ⟨_, @⟨sign, digits, mark, some, each⟩, same⟩
    have added := (fromZero digits).mpr ⟨each, same⟩
    obtain ⟨digit, further, rfl⟩ := List.exists_cons_of_ne_nil some
    have first : digit ≠ '+' ∧ digit ≠ '-' := by
      have isDigit := each digit (List.mem_cons_self ..)
      constructor <;> rintro rfl <;> cases isDigit
    rcases mark with rfl | rfl
    · rw [List.nil_append]
      split
      case h_1 shape => cases shape
      case h_2 shape => exact absurd (List.cons.inj shape).1 first.1
      case h_3 shape => exact absurd (List.cons.inj shape).1 first.2
      case h_4 shape => exact absurd (List.cons.inj shape).1 first.1
      case h_5 shape =>
        rw [unsigned, Bool.and_false, if_neg Bool.false_ne_true, ← shape]
        exact added
    · rw [List.singleton_append]
      exact added

end Polystore.IntegerText
