/-!
Cutting texts at marks. The parts of a split hold no mark, and put together again with marks between them
they are the text.
-/
namespace Polystore.Text

/-- The parts between the marks; there is one more of them than there are marks. -/
def split (mark : Char) : List Char → List (List Char)
  | [] => [[]]
  | c :: rest =>
    if c = mark then [] :: split mark rest
    else
      match split mark rest with
      | part :: parts => (c :: part) :: parts
      | [] => [[c]]

theorem split_ne_nil (mark : Char) (text : List Char) : split mark text ≠ [] := by
  cases text with
  | nil => simp [split]
  | cons c rest =>
    unfold split
    split
    · simp
    · split <;> simp

theorem intercalate_split (mark : Char) (text : List Char) : [mark].intercalate (split mark text) = text := by
  induction text with
  | nil => simp [split]
  | cons c rest ih =>
    by_cases here : c = mark
    · obtain ⟨part, parts, shape⟩ := List.exists_cons_of_ne_nil (split_ne_nil mark rest)
      rw [shape] at ih
      simp [split, here, shape, ih]
    · cases shape : split mark rest with
      | nil => exact absurd shape (split_ne_nil mark rest)
      | cons part parts =>
        rw [shape] at ih
        cases parts with
        | nil => simpa [split, here, shape] using ih
        | cons next parts => simpa [split, here, shape] using ih

theorem not_mem_of_mem_split {mark : Char} {text part : List Char} (member : part ∈ split mark text) :
    mark ∉ part := by
  induction text generalizing part with
  | nil => simp_all [split]
  | cons c rest ih =>
    by_cases here : c = mark
    · simp only [split, here, if_true, List.mem_cons] at member
      rcases member with rfl | member
      · simp
      · exact ih member
    · have other : ¬ mark = c := fun same => here same.symm
      cases shape : split mark rest with
      | nil => exact absurd shape (split_ne_nil mark rest)
      | cons first parts =>
        simp only [split, here, if_false, shape, List.mem_cons] at member
        rw [shape] at ih
        rcases member with rfl | member
        · simp [other, ih (List.mem_cons_self ..)]
        · exact ih (List.mem_cons_of_mem _ member)

/-- What stands before the first mark, and what behind it, if there is a mark. -/
def cut (mark : Char) : List Char → List Char × Option (List Char)
  | [] => ([], none)
  | c :: rest =>
    if c = mark then ([], some rest)
    else
      let (before, behind) := cut mark rest
      (c :: before, behind)

/-- What stands before the last mark, if there is a mark, and what behind it. -/
def cutLast (mark : Char) (text : List Char) : Option (List Char) × List Char :=
  let (behind, before) := cut mark text.reverse
  (before.map List.reverse, behind.reverse)

end Polystore.Text
