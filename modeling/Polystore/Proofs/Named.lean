import Polystore.Named

/-!
Maps that are filled from lists. A map that the things of a list are put into has their names in the order of their
first occurrences, and under each name what the last occurrence names.
-/
namespace Polystore

theorem eraseDups_of_nodup {keys : List String} (distinct : keys.Nodup) : keys.eraseDups = keys := by
  induction keys with
  | nil => rfl
  | cons key rest ih =>
    obtain ⟨fresh, others⟩ := List.nodup_cons.mp distinct
    have kept : (rest.filter fun other => !other == key) = rest := by
      refine List.filter_eq_self.mpr fun other member => ?_
      have different : other ≠ key := fun same => fresh (same ▸ member)
      simpa using different
    rw [List.eraseDups_cons, kept, ih others]

/-- A key that is there already changes nothing further behind. -/
theorem eraseDups_append_of_mem {keys : List String} {key : String} (member : key ∈ keys) (more : List String) :
    (keys ++ key :: more).eraseDups = (keys ++ more).eraseDups := by
  rw [List.eraseDups_append, List.eraseDups_append, List.cons_removeAll]
  simp [member]

namespace Named

variable {α : Type}

theorem has_eq_true_iff {items : List (Named α)} {name : String} : has items name = true ↔ name ∈ names items := by
  simp [has, names]

theorem mem_names_insert {items : List (Named α)} {name other : String} {value : α} :
    other ∈ names (insert items name value) ↔ other ∈ names items ∨ other = name := by
  rw [names_insert]
  split
  · rename_i member
    exact ⟨Or.inl, fun either => either.elim id fun same => same ▸ member⟩
  · rw [List.mem_append, List.mem_singleton]

/-- What is appended is found if nothing before it has the name. -/
theorem find?_append_singleton (items : List (Named α)) (item : Named α) (name : String) :
    find? (items ++ [item]) name = (find? items name).or (if item.name = name then some item.value else none) := by
  induction items with
  | nil => exact find?_cons item [] name
  | cons first rest ih =>
    rw [List.cons_append, find?_cons, find?_cons, ih]
    split <;> rfl

/-- What is put into a map was there or is one of those put in. -/
theorem mem_insertAll {items more : List (Named α)} {item : Named α} (member : item ∈ insertAll items more) :
    item ∈ items ∨ item ∈ more := by
  induction more generalizing items with
  | nil => exact Or.inl member
  | cons next rest ih =>
    rcases ih member with before | later
    · rcases mem_insert before with old | new
      · exact Or.inl old
      · exact Or.inr (new ▸ List.mem_cons_self ..)
    · exact Or.inr (List.mem_cons_of_mem next later)

theorem mem_of_mem_ofList {items : List (Named α)} {item : Named α} (member : item ∈ ofList items) : item ∈ items :=
  (mem_insertAll member).resolve_left (by simp)

/-- New names go behind those of a map, each once. -/
theorem names_insertAll {items : List (Named α)} (distinct : Distinct items) (more : List (Named α)) :
    names (insertAll items more) = (names items ++ names more).eraseDups := by
  induction more generalizing items with
  | nil =>
    have whole : names items ++ names ([] : List (Named α)) = names items := List.append_nil _
    rw [whole, eraseDups_of_nodup distinct]
    rfl
  | cons item rest ih =>
    have step : insertAll items (item :: rest) = insertAll (insert items item.name item.value) rest := rfl
    rw [step, ih (distinct_insert distinct item.name item.value), names_insert]
    have shown : names (item :: rest) = item.name :: names rest := rfl
    split
    · rename_i member
      rw [shown, eraseDups_append_of_mem member]
    · rw [shown, List.append_assoc]
      rfl

theorem names_ofList (items : List (Named α)) : names (ofList items) = (names items).eraseDups :=
  names_insertAll (by simp [Distinct, names]) items

/-- Of things of one name the last is found. -/
theorem find?_insertAll (items more : List (Named α)) (name : String) :
    find? (insertAll items more) name =
      ((more.filter fun item => item.name = name).getLast?.map Named.value).or (find? items name) := by
  induction more generalizing items with
  | nil => rfl
  | cons item rest ih =>
    have step : insertAll items (item :: rest) = insertAll (insert items item.name item.value) rest := rfl
    rw [step, ih, find?_insert, List.filter_cons]
    by_cases here : item.name = name
    · cases later : (rest.filter fun item => item.name = name).getLast? with
      | none => simp [here, List.getLast?_cons, later]
      | some last => simp [here, List.getLast?_cons, later]
    · simp [here]

theorem find?_ofList (items : List (Named α)) (name : String) :
    find? (ofList items) name = (items.filter fun item => item.name = name).getLast?.map Named.value := by
  rw [ofList, find?_insertAll]
  exact Option.or_none

/-- What no later thing shares the name of is the last of its name. -/
theorem getLast?_of_not_mem {item : Named α} {behind : List (Named α)} (last : item.name ∉ names behind)
    (before : List (Named α)) :
    ((before ++ item :: behind).filter fun other => other.name = item.name).getLast? = some item := by
  have none : (behind.filter fun other => other.name = item.name) = [] := by
    refine List.filter_eq_nil_iff.mpr fun other member same => last ?_
    rw [← of_decide_eq_true same]
    exact List.mem_map_of_mem member
  rw [List.filter_append, List.filter_cons_of_pos (by simp), none, List.getLast?_concat]

/-- A list stays as it is as a map just when no name occurs twice in it. -/
theorem ofList_eq_self_iff {items : List (Named α)} : ofList items = items ↔ Distinct items :=
  ⟨fun same => same ▸ distinct_ofList items, ofList_of_distinct⟩

end Named

end Polystore
