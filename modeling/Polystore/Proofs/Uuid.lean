import Polystore.Proofs.Text.Digits
import Polystore.Text.Blank
import Polystore.Uuid

/-!
Identifiers come back from their texts: the digits of a number give the number, also with zeros in front, and the groups
that a text is written in give its digits.
-/
namespace Polystore.Uuid

theorem digitValue?_digitChar {n : Nat} (small : n < 16) : Text.Hex.digitValue? (Nat.digitChar n) = some n := by
  revert n
  decide

theorem isBlank_digitChar {n : Nat} (small : n < 16) : Text.isBlank (Nat.digitChar n) = false := by
  revert n
  decide

/-- Digits that write a number, by their values. -/
def Writes (digits : List Char) (number : Nat) : Prop :=
  ∃ values : List Nat, (∀ value ∈ values, value < 16) ∧ values.map Nat.digitChar = digits ∧
    values.foldl (fun n value => n * 16 + value) 0 = number

theorem writes_digits (uuid : Uuid) : Writes uuid.digits uuid.number :=
  (Text.writes_toDigits (by decide) uuid.number).zeros (by decide) _

theorem mapM_digitValue? {values : List Nat} (small : ∀ value ∈ values, value < 16) :
    (values.map Nat.digitChar).mapM Text.Hex.digitValue? = some values := by
  induction values with
  | nil => rfl
  | cons value rest ih =>
    have first := digitValue?_digitChar (small value (List.mem_cons_self ..))
    have others := ih fun other member => small other (List.mem_cons_of_mem value member)
    rw [List.map_cons, List.mapM_cons, first, others]
    rfl

theorem readDigits_digits (uuid : Uuid) : readDigits uuid.digits = some uuid := by
  obtain ⟨values, small, shown, whole⟩ := uuid.writes_digits
  simp [readDigits, ← shown, mapM_digitValue? small, whole, uuid.number_lt]

theorem length_digits (uuid : Uuid) : uuid.digits.length = 32 := by
  have bound : uuid.number < 16 ^ 32 := uuid.number_lt
  have fits : (Nat.toDigits 16 uuid.number).length ≤ 32 :=
    (Nat.length_toDigits_le_iff (by decide) (by decide)).mpr bound
  simp only [digits, List.length_append, List.length_replicate]
  omega

theorem length_group {digits : List Char} (length : digits.length = 32) : (group digits).length = 36 := by
  simp [group, length]

private theorem drop_behind {front rest : List Char} {count : Nat} (length : front.length = count) (more : Nat) :
    (front ++ '-' :: rest).drop (count + 1 + more) = rest.drop more := by
  rw [← List.drop_drop, ← List.drop_drop, List.drop_left' length, List.drop_one, List.tail_cons]

private theorem take_drop_append (digits : List Char) (start count : Nat) :
    (digits.drop start).take count ++ digits.drop (start + count) = digits.drop start := by
  rw [← List.drop_drop, List.take_append_drop]

/-- The groups of a text are its digits. -/
theorem ungroup_group {digits : List Char} (length : digits.length = 32) :
    (group digits).take 8 ++ ((group digits).drop 9).take 4 ++ ((group digits).drop 14).take 4 ++
      ((group digits).drop 19).take 4 ++ (group digits).drop 24 = digits := by
  have first : (digits.take 8).length = 8 := by simp [length]
  have second : ((digits.drop 8).take 4).length = 4 := by simp [length]
  have third : ((digits.drop 12).take 4).length = 4 := by simp [length]
  have fourth : ((digits.drop 16).take 4).length = 4 := by simp [length]
  unfold group
  rw [List.take_left' first, drop_behind first 0, drop_behind first 5, drop_behind second 0, drop_behind first 10,
    drop_behind second 5, drop_behind third 0, drop_behind first 15, drop_behind second 10, drop_behind third 5,
    drop_behind fourth 0]
  simp only [List.drop_zero, List.append_assoc, List.take_left' second, List.take_left' third, List.take_left' fourth]
  rw [take_drop_append digits 16 4, take_drop_append digits 12 4, take_drop_append digits 8 4, List.take_append_drop]

theorem read_text (uuid : Uuid) : read uuid.text.toList = some uuid := by
  have whole := length_group uuid.length_digits
  simp only [text, String.toList_ofList, read, readGrouped, whole, ungroup_group uuid.length_digits, readDigits_digits]
  simp

/-- Groups decide one after another. -/
private theorem compare_hyphenated {as bs : List Char} (length : as.length = bs.length) (cs ds : List Char) :
    Ord.compare (as ++ '-' :: cs) (bs ++ '-' :: ds) = (Ord.compare as bs).then (Ord.compare cs ds) := by
  rw [compare_append length, List.compare_cons_cons, Std.ReflOrd.compare_self, Ordering.eq_then]

private theorem compare_drop {as bs : List Char} (length : as.length = bs.length) (start count : Nat) :
    Ord.compare (as.drop start) (bs.drop start) =
      (Ord.compare ((as.drop start).take count) ((bs.drop start).take count)).then
        (Ord.compare (as.drop (start + count)) (bs.drop (start + count))) := by
  rw [← List.drop_drop, ← List.drop_drop, ← compare_append (by simp [length]), List.take_append_drop,
    List.take_append_drop]

/-- Groups of digits are in the order of the digits. -/
theorem compare_group {as bs : List Char} (length : as.length = bs.length) :
    Ord.compare (group as) (group bs) = Ord.compare as bs := by
  have first : (as.take 8).length = (bs.take 8).length := by simp [length]
  have other (start count : Nat) : ((as.drop start).take count).length = ((bs.drop start).take count).length := by
    simp [length]
  have whole : Ord.compare as bs =
      (Ord.compare (as.take 8) (bs.take 8)).then (Ord.compare (as.drop 8) (bs.drop 8)) := compare_drop length 0 8
  rw [group, group, compare_hyphenated first, compare_hyphenated (other 8 4), compare_hyphenated (other 12 4),
    compare_hyphenated (other 16 4), whole, compare_drop length 8 4, compare_drop length 12 4,
    compare_drop length 16 4]

/-- Identifiers are in the order of their texts. -/
theorem compare_text (a b : Uuid) : Ord.compare a.text.toList b.text.toList = a.compare b := by
  have length : a.digits.length = b.digits.length := by rw [a.length_digits, b.length_digits]
  rw [text, text, String.toList_ofList, String.toList_ofList, compare_group length]
  exact Text.Writes.compare_eq (by decide) a.writes_digits b.writes_digits length

theorem isBlank_of_mem_digits {uuid : Uuid} {c : Char} (member : c ∈ uuid.digits) : Text.isBlank c = false := by
  obtain ⟨values, small, shown, _⟩ := uuid.writes_digits
  obtain ⟨value, present, rfl⟩ := List.mem_map.mp (shown ▸ member)
  exact isBlank_digitChar (small value present)

theorem isBlank_of_mem_text {uuid : Uuid} {c : Char} (member : c ∈ uuid.text.toList) : Text.isBlank c = false := by
  rw [text, String.toList_ofList] at member
  have split : c = '-' ∨ c ∈ uuid.digits := by
    simp only [group, List.mem_append, List.mem_cons] at member
    rcases member with first | dash | second | dash | third | dash | fourth | dash | fifth
    · exact Or.inr (List.mem_of_mem_take first)
    · exact Or.inl dash
    · exact Or.inr (List.mem_of_mem_drop (List.mem_of_mem_take second))
    · exact Or.inl dash
    · exact Or.inr (List.mem_of_mem_drop (List.mem_of_mem_take third))
    · exact Or.inl dash
    · exact Or.inr (List.mem_of_mem_drop (List.mem_of_mem_take fourth))
    · exact Or.inl dash
    · exact Or.inr (List.mem_of_mem_drop fifth)
  rcases split with rfl | digit
  · rfl
  · exact isBlank_of_mem_digits digit

end Polystore.Uuid
