import Polystore.Proofs.Comparisons

/-!
Numbers as digits of a base. Equally many digits are in the order of the numbers that they write, and digits without the
zeros at their end are in the order of the digits with them.
-/
namespace Polystore.Text

/-- Digits of a base that write a number, by their values. -/
def Writes (base : Nat) (digits : List Char) (number : Nat) : Prop :=
  ∃ values : List Nat, (∀ value ∈ values, value < base) ∧ values.map Nat.digitChar = digits ∧
    values.foldl (fun n value => n * base + value) 0 = number

theorem writes_toDigits {base : Nat} (large : 1 < base) (number : Nat) :
    Writes base (Nat.toDigits base number) number := by
  induction number using Nat.strongRecOn with
  | ind number ih =>
    rw [Nat.toDigits_eq_if large]
    split
    · rename_i small
      exact ⟨[number], by simpa using small, rfl, by simp⟩
    · rename_i notSmall
      obtain ⟨values, small, shown, whole⟩ := ih (number / base) (Nat.div_lt_self (by omega) large)
      refine ⟨values ++ [number % base], fun value member => ?_, by simp [shown], ?_⟩
      · rcases List.mem_append.mp member with front | last
        · exact small value front
        · rw [List.mem_singleton.mp last]
          exact Nat.mod_lt number (by omega)
      · rw [List.foldl_append, whole]
        exact Nat.div_add_mod' number base

theorem Writes.zeros {base : Nat} {digits : List Char} {number : Nat} (positive : 0 < base)
    (writes : Writes base digits number) (count : Nat) : Writes base (List.replicate count '0' ++ digits) number := by
  obtain ⟨values, small, rfl, whole⟩ := writes
  induction count with
  | zero => exact ⟨values, small, rfl, whole⟩
  | succ count ih =>
    obtain ⟨others, smaller, shown, same⟩ := ih
    refine ⟨0 :: others, ?_, ?_, by simpa using same⟩
    · simpa [positive] using smaller
    · rw [List.map_cons, shown, List.replicate_succ, List.cons_append]
      rfl

theorem compare_digitChar {m n : Nat} (smallM : m < 16) (smallN : n < 16) :
    compare (Nat.digitChar m) (Nat.digitChar n) = compare m n := by
  revert n
  revert m
  decide

private theorem compare_foldl {base : Nat} {as bs : List Nat} (smallA : ∀ a ∈ as, a < base)
    (smallB : ∀ b ∈ bs, b < base) (length : as.length = bs.length) (p q : Nat) :
    compare (as.foldl (fun n value => n * base + value) p) (bs.foldl (fun n value => n * base + value) q) =
      (compare p q).then (compare as bs) := by
  induction as generalizing bs p q with
  | nil =>
    obtain rfl := List.eq_nil_of_length_eq_zero length.symm
    simp
  | cons a as ih =>
    cases bs with
    | nil => cases length
    | cons b bs =>
      obtain ⟨smallHeadA, smallA⟩ := List.forall_mem_cons.mp smallA
      obtain ⟨smallHeadB, smallB⟩ := List.forall_mem_cons.mp smallB
      rw [List.foldl_cons, List.foldl_cons, ih smallA smallB (Nat.succ.inj length),
        compare_mul_add smallHeadA smallHeadB, List.compare_cons_cons, Ordering.then_assoc]

/-- Equally many digits are in the order of their numbers. -/
theorem Writes.compare_eq {base : Nat} (narrow : base ≤ 16) {as bs : List Char} {m n : Nat}
    (writesA : Writes base as m) (writesB : Writes base bs n) (length : as.length = bs.length) :
    compare as bs = compare m n := by
  obtain ⟨valuesA, smallA, rfl, rfl⟩ := writesA
  obtain ⟨valuesB, smallB, rfl, rfl⟩ := writesB
  have chars {as bs : List Nat} (smallA : ∀ a ∈ as, a < base) (smallB : ∀ b ∈ bs, b < base) :
      compare (as.map Nat.digitChar) (bs.map Nat.digitChar) = compare as bs := by
    induction as generalizing bs with
    | nil => cases bs <;> simp
    | cons a as ih =>
      cases bs with
      | nil => simp
      | cons b bs =>
        obtain ⟨smallHeadA, smallA⟩ := List.forall_mem_cons.mp smallA
        obtain ⟨smallHeadB, smallB⟩ := List.forall_mem_cons.mp smallB
        rw [List.map_cons, List.map_cons, List.compare_cons_cons, List.compare_cons_cons, ih smallA smallB,
          compare_digitChar (by omega) (by omega)]
  rw [chars smallA smallB, compare_foldl smallA smallB (by simpa using length), Std.ReflOrd.compare_self,
    Ordering.eq_then]

theorem not_isDigit_of_less {c : Char} (less : compare c '0' = .lt) : c.isDigit = false := by
  have below : c < '0' := compareOfLessAndEq_eq_lt.mp less
  rw [← Bool.not_eq_true, Char.isDigit, Bool.and_eq_true, decide_eq_true_eq]
  rintro ⟨least, _⟩
  exact absurd below (Char.not_lt.mpr least)

/-- No digits are less than as many zeros. -/
theorem compare_zeros_ne_lt {digits : List Char} (each : ∀ c ∈ digits, c.isDigit = true) :
    compare digits (List.replicate digits.length '0') ≠ .lt := by
  induction digits with
  | nil => simp
  | cons c rest ih =>
    obtain ⟨first, others⟩ := List.forall_mem_cons.mp each
    rw [List.length_cons, List.replicate_succ, List.compare_cons_cons]
    intro less
    rcases Ordering.then_eq_lt.mp less with below | ⟨_, behind⟩
    · rw [not_isDigit_of_less below] at first
      cases first
    · exact ih others behind

/-- Digits that are less when zeros fill both up to one length are also less without these zeros. -/
theorem compare_trimmed {as bs : List Char} {i j : Nat} (digits : ∀ c ∈ as, c.isDigit = true)
    (length : as.length + i = bs.length + j)
    (less : compare (as ++ List.replicate i '0') (bs ++ List.replicate j '0') = .lt) : compare as bs = .lt := by
  induction as generalizing bs with
  | nil =>
    cases bs with
    | cons b bs => rfl
    | nil =>
      obtain rfl : i = j := by simpa using length
      rw [Std.ReflOrd.compare_self] at less
      cases less
  | cons a as ih =>
    cases bs with
    | cons b bs =>
      simp only [List.cons_append, List.compare_cons_cons, Ordering.then_eq_lt] at less ⊢
      rcases less with first | ⟨same, behind⟩
      · exact .inl first
      · refine .inr ⟨same, ih (List.forall_mem_cons.mp digits).2 ?_ behind⟩
        simp only [List.length_cons] at length
        omega
    | nil =>
      -- Filled with zeros, the digits would have to be less than zeros only.
      have filled : ∀ c ∈ a :: as ++ List.replicate i '0', c.isDigit = true := by
        intro c member
        rcases List.mem_append.mp member with front | zero
        · exact digits c front
        · rw [List.eq_of_mem_replicate zero]
          rfl
      have counted : (a :: as ++ List.replicate i '0').length = j := by
        rw [List.length_append, List.length_replicate, length, List.length_nil, Nat.zero_add]
      rw [List.nil_append, ← counted] at less
      exact absurd less (compare_zeros_ne_lt filled)

end Polystore.Text
