import Mathlib.Algebra.GroupWithZero.Nat
import Polystore.Text.Split

/-!
Texts that are cut at marks. A split goes through joints: the parts of two texts with a mark between them are the parts
of the one and those of the other. What is done to the characters of a text one by one, and neither makes nor takes
marks, is done to its parts.
-/
namespace Polystore.Text

variable {mark : Char}

theorem split_cons_mark (rest : List Char) : split mark (mark :: rest) = [] :: split mark rest := by
  rw [split, if_pos rfl]

theorem split_cons_of_ne {c : Char} (other : c ≠ mark) {rest part : List Char} {parts : List (List Char)}
    (behind : split mark rest = part :: parts) : split mark (c :: rest) = (c :: part) :: parts := by
  rw [split, if_neg other, behind]

theorem split_append_of_not_mem {front : List Char} (plain : mark ∉ front) {rest part : List Char}
    {parts : List (List Char)} (behind : split mark rest = part :: parts) :
    split mark (front ++ rest) = (front ++ part) :: parts := by
  induction front with
  | nil => exact behind
  | cons c front ih =>
    obtain ⟨here, later⟩ := not_or.mp (List.mem_cons.not.mp plain)
    exact split_cons_of_ne (Ne.symm here) (ih later)

theorem split_of_not_mem {text : List Char} (plain : mark ∉ text) : split mark text = [text] := by
  have nothing : split mark [] = [[]] := rfl
  simpa using split_append_of_not_mem plain nothing

/-- The parts of two texts with a mark between them. -/
theorem split_append_mark (before behind : List Char) :
    split mark (before ++ mark :: behind) = split mark before ++ split mark behind := by
  induction before with
  | nil => exact split_cons_mark behind
  | cons c rest ih =>
    by_cases here : c = mark
    · subst here
      rw [List.cons_append, split_cons_mark, split_cons_mark, ih, List.cons_append]
    · obtain ⟨part, parts, shape⟩ := List.exists_cons_of_ne_nil (split_ne_nil mark rest)
      rw [shape, List.cons_append] at ih
      rw [List.cons_append, split_cons_of_ne here ih, split_cons_of_ne here shape, List.cons_append]

theorem length_split (mark : Char) (text : List Char) :
    ((split mark text).map List.length).sum + (split mark text).length = text.length + 1 := by
  induction text with
  | nil => rfl
  | cons c rest ih =>
    by_cases here : c = mark
    · subst here
      rw [split_cons_mark, List.map_cons, List.sum_cons, List.length_cons, List.length_nil, List.length_cons]
      omega
    · obtain ⟨part, parts, shape⟩ := List.exists_cons_of_ne_nil (split_ne_nil mark rest)
      rw [shape, List.map_cons, List.sum_cons, List.length_cons] at ih
      rw [split_cons_of_ne here shape, List.map_cons, List.sum_cons, List.length_cons, List.length_cons,
        List.length_cons]
      omega

/-- What is in a text and is no mark is in one of its parts. -/
theorem exists_mem_split {c : Char} (other : c ≠ mark) {text : List Char} (member : c ∈ text) :
    ∃ part ∈ split mark text, c ∈ part := by
  induction text with
  | nil => cases member
  | cons d rest ih =>
    by_cases here : d = mark
    · subst here
      obtain ⟨part, present, inside⟩ := ih ((List.mem_cons.mp member).resolve_left other)
      exact ⟨part, split_cons_mark rest ▸ List.mem_cons_of_mem _ present, inside⟩
    · obtain ⟨first, parts, shape⟩ := List.exists_cons_of_ne_nil (split_ne_nil mark rest)
      rw [split_cons_of_ne here shape]
      rcases List.mem_cons.mp member with rfl | later
      · exact ⟨_, List.mem_cons_self .., List.mem_cons_self ..⟩
      · obtain ⟨part, present, inside⟩ := ih later
        rw [shape] at present
        rcases List.mem_cons.mp present with rfl | further
        · exact ⟨_, List.mem_cons_self .., List.mem_cons_of_mem _ inside⟩
        · exact ⟨part, List.mem_cons_of_mem _ further, inside⟩

theorem not_mem_of_length_split {text : List Char} (one : (split mark text).length = 1) : mark ∉ text := by
  obtain ⟨part, shape⟩ := List.length_eq_one_iff.mp one
  have whole := intercalate_split mark text
  rw [shape, List.intercalate_singleton] at whole
  exact whole ▸ not_mem_of_mem_split (shape ▸ List.mem_singleton_self part)

theorem cut_append {front : List Char} (plain : mark ∉ front) (behind : List Char) :
    cut mark (front ++ behind) = (front ++ (cut mark behind).1, (cut mark behind).2) := by
  induction front with
  | nil => rfl
  | cons c front ih =>
    obtain ⟨here, later⟩ := not_or.mp (List.mem_cons.not.mp plain)
    rw [List.cons_append, cut, if_neg (Ne.symm here), ih later]
    rfl

theorem cut_append_mark {before : List Char} (plain : mark ∉ before) (behind : List Char) :
    cut mark (before ++ mark :: behind) = (before, some behind) := by
  rw [cut_append plain, cut, if_pos rfl, List.append_nil]

theorem cut_of_not_mem {text : List Char} (plain : mark ∉ text) : cut mark text = (text, none) := by
  have whole := cut_append plain []
  rwa [List.append_nil, cut, List.append_nil] at whole

theorem cut_append_of_mem {text : List Char} (member : mark ∈ text) (behind : List Char) :
    (cut mark (text ++ behind)).1 = (cut mark text).1 := by
  induction text with
  | nil => cases member
  | cons c rest ih =>
    by_cases here : c = mark
    · rw [List.cons_append, cut, if_pos here, cut, if_pos here]
    · rw [List.cons_append, cut, if_neg here, cut, if_neg here]
      exact congrArg (c :: ·) (ih ((List.mem_cons.mp member).resolve_left (Ne.symm here)))

theorem exists_of_mem {text : List Char} (member : mark ∈ text) :
    ∃ before behind, mark ∉ before ∧ text = before ++ mark :: behind := by
  induction text with
  | nil => cases member
  | cons c rest ih =>
    by_cases here : mark = c
    · exact ⟨[], rest, List.not_mem_nil, here ▸ rfl⟩
    · obtain ⟨before, behind, plain, rfl⟩ := ih ((List.mem_cons.mp member).resolve_left here)
      exact ⟨c :: before, behind, List.mem_cons.not.mpr (not_or.mpr ⟨here, plain⟩), rfl⟩

section Rewritten

variable {change : Char → List Char} (kept : change mark = [mark]) (none : ∀ c, c ≠ mark → mark ∉ change c)

include kept none

theorem split_flatMap (text : List Char) :
    split mark (text.flatMap change) = (split mark text).map (List.flatMap change) := by
  induction text with
  | nil => rfl
  | cons c rest ih =>
    rw [List.flatMap_cons]
    by_cases here : c = mark
    · subst here
      rw [kept, List.singleton_append, split_cons_mark, split_cons_mark, ih]
      rfl
    · obtain ⟨part, parts, shape⟩ := List.exists_cons_of_ne_nil (split_ne_nil mark rest)
      rw [shape, List.map_cons] at ih
      rw [split_cons_of_ne here shape, split_append_of_not_mem (none c here) ih]
      rfl

theorem cut_flatMap (text : List Char) : cut mark (text.flatMap change) =
    ((cut mark text).1.flatMap change, (cut mark text).2.map (List.flatMap change)) := by
  induction text with
  | nil => rfl
  | cons c rest ih =>
    rw [List.flatMap_cons]
    by_cases here : c = mark
    · subst here
      rw [kept, List.singleton_append, cut, if_pos rfl, cut, if_pos rfl]
      rfl
    · rw [cut_append (none c here), ih, cut, if_neg here]
      rfl

end Rewritten

end Polystore.Text
