/-!
Named things, and maps that remember the order in which their names were first inserted. Such a map is a
list of named things; inserting a name again keeps its place and replaces what it names.
-/
namespace Polystore

/-- A thing with a name. -/
structure Named (α : Type) where
  name : String
  value : α
deriving DecidableEq, Repr

namespace Named

variable {α β : Type}

def map (change : α → β) (item : Named α) : Named β := ⟨item.name, change item.value⟩

/-- The names of a list, in order. -/
def names (items : List (Named α)) : List String := items.map Named.name

def find? (items : List (Named α)) (name : String) : Option α :=
  (items.find? fun item => item.name = name).map Named.value

def has (items : List (Named α)) (name : String) : Bool := items.any fun item => item.name = name

/-- Replaces what a name stands for, in its place, or appends it. -/
def insert (items : List (Named α)) (name : String) (value : α) : List (Named α) :=
  match items with
  | [] => [⟨name, value⟩]
  | item :: rest => if item.name = name then ⟨name, value⟩ :: rest else item :: insert rest name value

def insertAll (items more : List (Named α)) : List (Named α) :=
  more.foldl (fun items item => insert items item.name item.value) items

/-- The map with the things of a list: places of first occurrences, values of last ones. -/
def ofList (items : List (Named α)) : List (Named α) := insertAll [] items

def erase (items : List (Named α)) (name : String) : List (Named α) :=
  items.filter fun item => item.name ≠ name

/-- A list that is a map: no name occurs twice. -/
def Distinct (items : List (Named α)) : Prop := (names items).Nodup

@[simp] theorem names_map (change : α → β) (items : List (Named α)) : names (items.map (map change)) = names items :=
  List.map_map

theorem names_insert (items : List (Named α)) (name : String) (value : α) :
    names (insert items name value) = if name ∈ names items then names items else names items ++ [name] := by
  induction items with
  | nil => simp [insert, names]
  | cons item rest ih =>
    by_cases same : item.name = name
    · simp [insert, names, same]
    · have other : ¬ name = item.name := fun h => same h.symm
      simp only [names] at ih
      by_cases member : name ∈ rest.map Named.name <;> simp [insert, names, same, other, member, ih]

theorem distinct_insert {items : List (Named α)} (distinct : Distinct items) (name : String) (value : α) :
    Distinct (insert items name value) := by
  unfold Distinct at *
  rw [names_insert]
  split
  · exact distinct
  · rename_i absent
    rw [List.nodup_append]
    refine ⟨distinct, by simp, ?_⟩
    intro a member b last
    simp only [List.mem_singleton] at last
    subst last
    intro same
    exact absent (same ▸ member)

theorem find?_cons (item : Named α) (rest : List (Named α)) (name : String) :
    find? (item :: rest) name = if item.name = name then some item.value else find? rest name := by
  by_cases same : item.name = name <;> simp [find?, same]

theorem isSome_find? (items : List (Named α)) (name : String) : (find? items name).isSome = has items name := by
  rw [find?, has, Option.isSome_map, List.isSome_find?]

theorem find?_insert (items : List (Named α)) (name other : String) (value : α) :
    find? (insert items name value) other = if name = other then some value else find? items other := by
  induction items with
  | nil => simp [insert, find?]
  | cons item rest ih =>
    by_cases here : item.name = name
    · by_cases same : name = other <;> simp [insert, here, find?_cons, same]
    · simp only [insert, here, if_false, find?_cons, ih]
      by_cases found : item.name = other
      · have different : ¬ name = other := fun h => here (found.trans h.symm)
        simp [found, different]
      · simp [found]

theorem insert_insert (items : List (Named α)) (name : String) (first second : α) :
    insert (insert items name first) name second = insert items name second := by
  induction items with
  | nil => simp [insert]
  | cons item rest ih => by_cases same : item.name = name <;> simp [insert, same, ih]

theorem insert_of_not_mem {items : List (Named α)} {name : String} (absent : name ∉ names items) (value : α) :
    insert items name value = items ++ [⟨name, value⟩] := by
  induction items with
  | nil => rfl
  | cons item rest ih =>
    simp only [names, List.map_cons, List.mem_cons, not_or] at absent
    have other : ¬ item.name = name := fun same => absent.1 same.symm
    simp [insert, other, ih absent.2]

theorem mem_insert {items : List (Named α)} {name : String} {value : α} {item : Named α}
    (member : item ∈ insert items name value) : item ∈ items ∨ item = ⟨name, value⟩ := by
  induction items with
  | nil => simpa [insert] using member
  | cons head rest ih =>
    by_cases same : head.name = name
    · simp only [insert, same, if_true, List.mem_cons] at member
      rcases member with here | later
      · exact Or.inr here
      · exact Or.inl (List.mem_cons_of_mem head later)
    · simp only [insert, same, if_false, List.mem_cons] at member
      rcases member with here | later
      · exact Or.inl (here ▸ List.mem_cons_self ..)
      · exact (ih later).imp_left (List.mem_cons_of_mem head)

/-- Erasing names one after another keeps what has other names, in its order. -/
theorem foldl_erase (names : List String) (items : List (Named α)) :
    names.foldl erase items = items.filter fun item => item.name ∉ names := by
  induction names generalizing items with
  | nil => exact (List.filter_eq_self.mpr fun _ _ => by simp).symm
  | cons name rest ih =>
    rw [List.foldl_cons, ih, erase, List.filter_filter]
    refine List.filter_congr fun item _ => ?_
    simp [Bool.and_comm]

theorem mem_of_find? {items : List (Named α)} {name : String} {value : α}
    (found : find? items name = some value) : ⟨name, value⟩ ∈ items := by
  obtain ⟨item, first, rfl⟩ := Option.map_eq_some_iff.mp found
  have same : item.name = name := by simpa using List.find?_some first
  exact same ▸ List.mem_of_find?_eq_some first

/-- What is in a map is found under its name. -/
theorem find?_of_mem {items : List (Named α)} (distinct : Distinct items) {name : String} {value : α}
    (member : ⟨name, value⟩ ∈ items) : find? items name = some value := by
  induction items with
  | nil => cases member
  | cons item rest ih =>
    obtain ⟨fresh, restDistinct⟩ := List.nodup_cons.mp distinct
    rw [find?_cons]
    rcases List.mem_cons.mp member with rfl | later
    · rw [if_pos rfl]
    · have other : ¬ item.name = name := by
        intro same
        exact fresh (same ▸ List.mem_map_of_mem later)
      rw [if_neg other, ih restDistinct later]

theorem distinct_insertAll {items : List (Named α)} (distinct : Distinct items) (more : List (Named α)) :
    Distinct (insertAll items more) := by
  induction more generalizing items with
  | nil => exact distinct
  | cons item rest ih => exact ih (distinct_insert distinct item.name item.value)

/-- New names go to the end, in their order. -/
theorem insertAll_of_nodup {items more : List (Named α)} (fresh : (names items ++ names more).Nodup) :
    insertAll items more = items ++ more := by
  induction more generalizing items with
  | nil => exact (List.append_nil items).symm
  | cons item rest ih =>
    have absent : item.name ∉ names items := fun member =>
      (List.nodup_append.mp fresh).2.2 item.name member item.name (by simp [names]) rfl
    have next : (names (items ++ [item]) ++ names rest).Nodup := by simpa [names] using fresh
    rw [insertAll, List.foldl_cons, insert_of_not_mem absent]
    exact (ih next).trans (List.append_assoc ..)

theorem ofList_of_distinct {items : List (Named α)} (distinct : Distinct items) : ofList items = items :=
  insertAll_of_nodup distinct

theorem distinct_ofList (items : List (Named α)) : Distinct (ofList items) :=
  distinct_insertAll (by simp [Distinct, names]) items

end Named

end Polystore
