import Mathlib.Data.Int.Order.Basic
import Mathlib.Data.Nat.Basic
import Mathlib.Order.Compare
import Mathlib.Order.Lattice
import Polystore.Value.Compare

/-!
Comparisons. A comparison of what things are mapped to compares the things. Lists are compared by the first place where
they differ, and what ends first comes first.
-/
namespace Polystore

/-- A total order of what things are mapped to orders the things. -/
theorem transCmp_on {α β : Type} (compare : β → β → Ordering) [Std.TransCmp compare] (of : α → β) :
    Std.TransCmp fun a b => compare (of a) (of b) where
  eq_swap := Std.OrientedCmp.eq_swap
  isLE_trans := Std.TransCmp.isLE_trans

/-- Two pairs are in the same order. -/
theorem compare_eq_compare {α β : Type} [LinearOrder α] [LinearOrder β] {a b : α} {c d : β} (less : a < b ↔ c < d)
    (greater : b < a ↔ d < c) : compare a b = compare c d := by
  rcases lt_trichotomy a b with before | same | behind
  · rw [compare_lt_iff_lt.mpr before, compare_lt_iff_lt.mpr (less.mp before)]
  · have notLess := less.not.mp same.not_lt
    have notGreater := greater.not.mp same.not_gt
    rw [compare_eq_iff_eq.mpr same, compare_eq_iff_eq.mpr (le_antisymm (not_lt.mp notGreater) (not_lt.mp notLess))]
  · rw [compare_gt_iff_gt.mpr behind, compare_gt_iff_gt.mpr (greater.mp behind)]

/-- Numbers that end in one digit more are compared by what stands in front of it, then by the digit. -/
theorem compare_mul_add {base p q a b : Nat} (smallA : a < base) (smallB : b < base) :
    compare (p * base + a) (q * base + b) = (compare p q).then (compare a b) := by
  have below {p q a b : Nat} (small : a < base) (less : p < q) : p * base + a < q * base + b := by
    have next : (p + 1) * base ≤ q * base := Nat.mul_le_mul_right base less
    rw [Nat.add_mul, Nat.one_mul] at next
    omega
  rcases lt_trichotomy p q with less | rfl | greater
  · rw [compare_lt_iff_lt.mpr less, compare_lt_iff_lt.mpr (below smallA less), Ordering.lt_then]
  · rw [Std.ReflOrd.compare_self, Ordering.eq_then]
    exact compare_eq_compare (by omega) (by omega)
  · rw [compare_gt_iff_gt.mpr greater, compare_gt_iff_gt.mpr (below smallB greater), Ordering.gt_then]

section Lists

variable {α : Type} [Ord α]

/-- Lists are compared by the lexicographic order of what they are made of. -/
theorem compare_list_eq_lt_iff [LT α] [Std.LawfulEqOrd α] (less : ∀ a b : α, compare a b = .lt ↔ a < b)
    (as bs : List α) : compare as bs = .lt ↔ as < bs := by
  induction as generalizing bs with
  | nil => cases bs <;> simp
  | cons a as ih =>
    cases bs with
    | nil => simp
    | cons b bs =>
      rw [List.compare_cons_cons, Ordering.then_eq_lt, List.cons_lt_cons_iff, less, ih,
        Std.LawfulEqCmp.compare_eq_iff_eq]

theorem compare_chars_eq_lt_iff (as bs : List Char) : compare as bs = .lt ↔ as < bs :=
  compare_list_eq_lt_iff (fun _ _ => compareOfLessAndEq_eq_lt) as bs

theorem compare_bytes_eq_lt_iff (as bs : List UInt8) : compare as bs = .lt ↔ as < bs :=
  compare_list_eq_lt_iff (fun _ _ => compareOfLessAndEq_eq_lt) as bs

/-- Where the fronts are of one length, they decide before what is behind them. -/
theorem compare_append {as bs : List α} (length : as.length = bs.length) (cs ds : List α) :
    compare (as ++ cs) (bs ++ ds) = (compare as bs).then (compare cs ds) := by
  induction as generalizing bs with
  | nil =>
    obtain rfl := List.eq_nil_of_length_eq_zero length.symm
    simp
  | cons a as ih =>
    cases bs with
    | nil => cases length
    | cons b bs =>
      rw [List.cons_append, List.cons_append, List.compare_cons_cons, List.compare_cons_cons,
        ih (Nat.succ.inj length), Ordering.then_assoc]

/-- Lists are in order one way or the other, or are the same. -/
theorem list_trichotomy [LT α] [Std.LawfulEqOrd α] [Std.OrientedOrd α]
    (less : ∀ as bs : List α, compare as bs = .lt ↔ as < bs) (as bs : List α) : as < bs ∨ as = bs ∨ bs < as := by
  cases order : compare as bs with
  | lt => exact .inl ((less as bs).mp order)
  | eq => exact .inr (.inl (Std.LawfulEqCmp.eq_of_compare order))
  | gt =>
    have turned : compare bs as = .lt := by rw [Std.OrientedOrd.eq_swap (a := bs), order]; rfl
    exact .inr (.inr ((less bs as).mp turned))

end Lists

section LawfulLists

variable {α : Type} [Ord α] [Std.LawfulEqOrd α]

theorem compare_append_left (front as bs : List α) : compare (front ++ as) (front ++ bs) = compare as bs := by
  rw [compare_append rfl, Std.ReflOrd.compare_self, Ordering.eq_then]

/-- What goes on where a list ends comes behind it. -/
theorem compare_of_prefix {as bs : List α} (front : as <+: bs) (longer : as ≠ bs) : compare as bs = .lt := by
  obtain ⟨more, rfl⟩ := front
  have more_ne_nil : more ≠ [] := fun none => longer (by rw [none, List.append_nil])
  obtain ⟨c, rest, rfl⟩ := List.exists_cons_of_ne_nil more_ne_nil
  have whole := compare_append_left as [] (c :: rest)
  rwa [List.append_nil] at whole

/-- Lists of which none goes on where the other ends are told apart before either ends. -/
theorem compare_append_of_apart {as bs : List α} (first : ¬ as <+: bs) (second : ¬ bs <+: as) (cs ds : List α) :
    compare (as ++ cs) (bs ++ ds) = compare as bs := by
  induction as generalizing bs with
  | nil => exact absurd List.nil_prefix first
  | cons a as ih =>
    cases bs with
    | nil => exact absurd List.nil_prefix second
    | cons b bs =>
      rw [List.cons_append, List.cons_append, List.compare_cons_cons, List.compare_cons_cons]
      cases order : compare a b with
      | lt | gt => rfl
      | eq =>
        obtain rfl : a = b := Std.LawfulEqCmp.eq_of_compare order
        rw [ih (fun front => first ((List.prefix_cons_inj a).mpr front))
          fun front => second ((List.prefix_cons_inj a).mpr front)]

end LawfulLists

end Polystore
