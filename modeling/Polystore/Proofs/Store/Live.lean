import Polystore.Store.Write
import Mathlib.Data.List.Nodup
import Mathlib.Data.List.Perm.Subperm

/-!
The live rows of a collection, and what a predicate picks among them. The keys of a collection are distinct,
so that looking a key up among all rows and then asking whether the row is live gives what looking it up among
the live rows gives, and a row can be told by its key as well as by its place.
-/
namespace Polystore.Store

/-- No two rows have the same key. -/
def DistinctKeys (rows : List StoredRow) : Prop := (rows.map StoredRow.key).Nodup

instance (rows : List StoredRow) : Decidable (DistinctKeys rows) :=
  inferInstanceAs (Decidable (rows.map StoredRow.key).Nodup)

theorem isExpired_later {row : StoredRow} {now later : Nat} (after : now ≤ later)
    (expired : row.isExpired now = true) : row.isExpired later = true := by
  cases expiry : row.expiry with
  | none => simp [StoredRow.isExpired, expiry] at expired
  | some time =>
    simp only [StoredRow.isExpired, expiry, Option.any_some, decide_eq_true_eq] at expired ⊢
    omega

@[simp] theorem live_nil (now : Nat) : live [] now = [] := rfl

theorem mem_live {rows : List StoredRow} {now : Nat} {row : StoredRow} :
    row ∈ live rows now ↔ row ∈ rows ∧ row.isExpired now = false := by
  simp [live]

/-- What expired before has expired. -/
theorem live_live {now later : Nat} (after : now ≤ later) (rows : List StoredRow) :
    live (live rows now) later = live rows later := by
  rw [live, live, List.filter_filter]
  refine List.filter_congr fun row _ => ?_
  cases before : row.isExpired now with
  | false => simp
  | true => simp [isExpired_later after before]

@[simp] theorem live_live_now (rows : List StoredRow) (now : Nat) : live (live rows now) now = live rows now :=
  live_live (Nat.le_refl now) rows

/-- What does not touch the expiry of a row does not bring it back. -/
theorem live_map {change : StoredRow → StoredRow} (same : ∀ row, (change row).expiry = row.expiry)
    (rows : List StoredRow) (now : Nat) : live (rows.map change) now = (live rows now).map change := by
  rw [live, List.filter_map, live]
  congr 1
  refine List.filter_congr fun row _ => ?_
  simp [StoredRow.isExpired, same]

theorem distinctKeys_live {rows : List StoredRow} (distinct : DistinctKeys rows) (now : Nat) :
    DistinctKeys (live rows now) :=
  distinct.sublist (List.filter_sublist.map _)

/-- A row is found under its key. -/
theorem find?_of_mem {rows : List StoredRow} (distinct : DistinctKeys rows) {row : StoredRow} (member : row ∈ rows) :
    rows.find? (fun other => other.key = row.key) = some row := by
  cases found : rows.find? fun other => other.key = row.key with
  | none =>
    have nowhere := List.find?_eq_none.mp found row member
    simp at nowhere
  | some other =>
    have sameKey : other.key = row.key := by simpa using List.find?_some found
    rw [List.inj_on_of_nodup_map distinct (List.mem_of_find?_eq_some found) member sameKey]

theorem find?_live {rows : List StoredRow} (distinct : DistinctKeys rows) (key : String) (now : Nat) :
    (live rows now).find? (fun row => row.key = key) =
      (rows.find? fun row => row.key = key).filter fun row => !row.isExpired now := by
  induction rows with
  | nil => rfl
  | cons row rest ih =>
    obtain ⟨fresh, restDistinct⟩ := List.nodup_cons.mp distinct
    rw [live, List.filter_cons]
    by_cases here : row.key = key
    · cases gone : row.isExpired now with
      | false => simp [here, gone, Option.filter]
      | true =>
        -- The only row of the key has expired, and no later one has the same key.
        have others : (live rest now).find? (fun row => row.key = key) = none := by
          refine List.find?_eq_none.mpr fun other member same => fresh ?_
          exact List.mem_map.mpr ⟨other, (mem_live.mp member).1, by simpa [here] using same⟩
        rw [List.find?_cons_of_pos (by simpa using here), Option.filter, gone]
        exact others
    · rw [List.find?_cons_of_neg (by simpa using here)]
      rw [← ih restDistinct, live]
      split
      · rw [List.find?_cons_of_neg (by simpa using here)]
      · rfl

/-- Puts a row in the place of the one with its key, or at the end. -/
def setRow (row : StoredRow) : List StoredRow → List StoredRow
  | [] => [row]
  | other :: rest => if other.key = row.key then row :: rest else other :: setRow row rest

theorem setRow_of_missing {row : StoredRow} {rows : List StoredRow}
    (missing : rows.find? (fun other => other.key = row.key) = none) : setRow row rows = rows ++ [row] := by
  induction rows with
  | nil => rfl
  | cons other rest ih =>
    by_cases here : other.key = row.key
    · simp [here] at missing
    · rw [List.find?_cons_of_neg (by simpa using here)] at missing
      simp [setRow, here, ih missing]

theorem renewFirst_eq_setRow {key : String} {row : StoredRow} {rows : List StoredRow}
    (present : rows.find? (fun other => other.key = key) = some row) {change : StoredRow → StoredRow}
    (same : (change row).key = key) : renewFirst key change rows = setRow (change row) rows := by
  induction rows with
  | nil => simp at present
  | cons other rest ih =>
    by_cases here : other.key = key
    · rw [List.find?_cons_of_pos (by simpa using here)] at present
      cases present
      simp [renewFirst, setRow, here, same]
    · rw [List.find?_cons_of_neg (by simpa using here)] at present
      simp [renewFirst, setRow, here, same, ih present]

theorem keys_setRow (row : StoredRow) (rows : List StoredRow) :
    (setRow row rows).map StoredRow.key =
      if row.key ∈ rows.map StoredRow.key then rows.map StoredRow.key
      else rows.map StoredRow.key ++ [row.key] := by
  induction rows with
  | nil => simp [setRow]
  | cons other rest ih =>
    by_cases here : other.key = row.key
    · simp [setRow, here]
    · have different : ¬ row.key = other.key := fun same => here same.symm
      by_cases member : row.key ∈ rest.map StoredRow.key
      · rw [if_pos member] at ih
        simp [setRow, here, ih, List.mem_cons_of_mem other.key member]
      · rw [if_neg member] at ih
        simp [setRow, here, ih, member, different]

theorem distinctKeys_setRow {rows : List StoredRow} (distinct : DistinctKeys rows) (row : StoredRow) :
    DistinctKeys (setRow row rows) := by
  rw [DistinctKeys, keys_setRow]
  split
  · exact distinct
  · rename_i fresh
    rw [List.nodup_append]
    refine ⟨distinct, by simp, fun key member other last same => fresh ?_⟩
    rwa [← List.mem_singleton.mp last, ← same]

theorem mem_setRow {row other : StoredRow} {rows : List StoredRow} (member : other ∈ setRow row rows) :
    other ∈ rows ∨ other = row := by
  induction rows with
  | nil => exact Or.inr (List.mem_singleton.mp member)
  | cons head rest ih =>
    unfold setRow at member
    split at member
    · exact (List.mem_cons.mp member).symm.imp_left (List.mem_cons_of_mem head)
    · rcases List.mem_cons.mp member with here | later
      · exact Or.inl (here ▸ List.mem_cons_self ..)
      · exact (ih later).imp_left (List.mem_cons_of_mem head)

theorem find?_setRow (row : StoredRow) (rows : List StoredRow) (key : String) :
    (setRow row rows).find? (fun other => other.key = key) =
      if row.key = key then some row else rows.find? fun other => other.key = key := by
  induction rows with
  | nil => by_cases same : row.key = key <;> simp [setRow, same]
  | cons other rest ih =>
    by_cases here : other.key = row.key
    · by_cases same : row.key = key <;> simp [setRow, here, same]
    · rw [setRow, if_neg here]
      by_cases first : other.key = key
      · have different : ¬ row.key = key := fun same => here (first.trans same.symm)
        simp [first, different]
      · simp [first, ih]

namespace Service

/-- The rows that a predicate picks. Filters pick in the order of the rows, key lookups in the order of the
keys. -/
def picked (service : Service) (predicate : Option Predicate) (rows : List StoredRow) : List StoredRow :=
  match predicate with
  | none => rows
  | some (.filter filter) => rows.filter fun row => filter.holds (service.view row)
  | some (.keys lookup) => lookup.keys.eraseDups.filterMap fun key => rows.find? fun row => row.key = key

@[simp] theorem picked_nil (service : Service) (predicate : Option Predicate) : service.picked predicate [] = [] := by
  cases predicate with
  | none => rfl
  | some predicate => cases predicate <;> simp [picked]

theorem mem_of_mem_picked {service : Service} {predicate : Option Predicate} {rows : List StoredRow}
    {row : StoredRow} (member : row ∈ service.picked predicate rows) : row ∈ rows := by
  cases predicate with
  | none => exact member
  | some predicate =>
    cases predicate with
    | filter filter => exact (List.mem_filter.mp member).1
    | keys lookup =>
      obtain ⟨key, _, found⟩ := List.mem_filterMap.mp member
      exact List.mem_of_find?_eq_some found

/-- Whether a predicate picks a row where it meets it. -/
def picks (service : Service) (predicate : Option Predicate) (row : StoredRow) : Bool :=
  match predicate with
  | none => true
  | some (.filter filter) => filter.holds (service.view row)
  | some (.keys lookup) => lookup.keys.contains row.key

theorem mem_picked_iff {service : Service} {rows : List StoredRow} (distinct : DistinctKeys rows)
    {predicate : Option Predicate} {row : StoredRow} :
    row ∈ service.picked predicate rows ↔ row ∈ rows ∧ service.picks predicate row = true := by
  cases predicate with
  | none => simp [picked, picks]
  | some predicate =>
    cases predicate with
    | filter filter => simp [picked, picks]
    | keys lookup =>
      simp only [picked, picks, List.mem_filterMap, List.mem_eraseDups, List.contains_iff_mem]
      constructor
      · rintro ⟨key, asked, found⟩
        have same : row.key = key := by simpa using List.find?_some found
        exact ⟨List.mem_of_find?_eq_some found, same ▸ asked⟩
      · rintro ⟨member, asked⟩
        exact ⟨row.key, asked, find?_of_mem distinct member⟩

private theorem filter_zipIdx (rows : List StoredRow) (test : StoredRow → Bool) :
    (rows.zipIdx.filter fun entry => test entry.1).map Prod.fst = rows.filter test := by
  have both := (List.filter_map (f := Prod.fst) (p := test) (l := rows.zipIdx)).symm
  rwa [List.zipIdx_map_fst] at both

private theorem find?_zipIdx (rows : List StoredRow) (start : Nat) (test : StoredRow → Bool) :
    ((rows.zipIdx start).find? fun entry => test entry.1).map Prod.fst = rows.find? test := by
  induction rows generalizing start with
  | nil => rfl
  | cons row rest ih => by_cases here : test row = true <;> simp [List.zipIdx_cons, here, ih]

/-- The rows that a read selects are those that the predicate picks among the live ones. -/
theorem selected_rows (service : Service) {rows : List StoredRow} (distinct : DistinctKeys rows)
    (predicate : Option Predicate) (now : Nat) :
    (service.selected rows predicate now).map Prod.fst = service.picked predicate (live rows now) := by
  cases predicate with
  | none => exact filter_zipIdx rows fun row => !row.isExpired now
  | some predicate =>
    cases predicate with
    | filter filter =>
      simp only [selected, picked, live, List.filter_filter]
      exact filter_zipIdx rows fun row => filter.holds (service.view row) && !row.isExpired now
    | keys lookup =>
      simp only [selected, picked, List.filter_filterMap, List.map_filterMap]
      congr 1
      funext key
      rw [find?_live distinct, ← find?_zipIdx rows 0]
      cases rows.zipIdx.find? fun entry => decide (entry.1.key = key) with
      | none => rfl
      | some entry => cases gone : entry.1.isExpired now <;> simp [Option.filter, gone]

theorem mem_of_mem_selected {service : Service} {rows : List StoredRow} {predicate : Option Predicate}
    {now : Nat} {entry : StoredRow × Nat} (member : entry ∈ service.selected rows predicate now) :
    entry ∈ rows.zipIdx := by
  cases predicate with
  | none => exact (List.mem_filter.mp member).1
  | some predicate =>
    cases predicate with
    | filter filter => exact (List.mem_filter.mp (List.mem_filter.mp member).1).1
    | keys lookup =>
      obtain ⟨key, _, found⟩ := List.mem_filterMap.mp (List.mem_filter.mp member).1
      exact List.mem_of_find?_eq_some found

/-- A row of a collection is told by its key. -/
theorem place_unique {rows : List StoredRow} (distinct : DistinctKeys rows) {a b : StoredRow × Nat}
    (here : a ∈ rows.zipIdx) (there : b ∈ rows.zipIdx) (same : a.1.key = b.1.key) : a = b := by
  have first := List.mem_zipIdx_iff_getElem?.mp here
  have second := List.mem_zipIdx_iff_getElem?.mp there
  have inside : a.2 < (rows.map StoredRow.key).length := by
    rw [List.length_map]
    exact (List.getElem?_eq_some_iff.mp first).1
  have place : a.2 = b.2 := by
    refine (List.getElem?_inj inside distinct).mp ?_
    rw [List.getElem?_map, List.getElem?_map, first, second, Option.map_some, Option.map_some, same]
  rw [place, second] at first
  exact Prod.ext (Option.some.inj first).symm place

/-- A read selects the places of the live rows that its predicate picks. -/
theorem mem_selected_iff {service : Service} {rows : List StoredRow} (distinct : DistinctKeys rows)
    {predicate : Option Predicate} {now : Nat} {entry : StoredRow × Nat} :
    entry ∈ service.selected rows predicate now ↔
      entry ∈ rows.zipIdx ∧ entry.1.isExpired now = false ∧ service.picks predicate entry.1 = true := by
  cases predicate with
  | none => simp [selected, picks]
  | some predicate =>
    cases predicate with
    | filter filter =>
      simp only [selected, picks, List.mem_filter, Bool.not_eq_true']
      exact and_assoc
    | keys lookup =>
      simp only [selected, picks, List.mem_filter, List.mem_filterMap, List.mem_eraseDups, List.contains_iff_mem,
        Bool.not_eq_true']
      constructor
      · rintro ⟨⟨key, asked, found⟩, lives⟩
        have same : entry.1.key = key := by simpa using List.find?_some found
        exact ⟨List.mem_of_find?_eq_some found, lives, same ▸ asked⟩
      · rintro ⟨member, lives, asked⟩
        refine ⟨⟨entry.1.key, asked, ?_⟩, lives⟩
        cases found : rows.zipIdx.find? fun other => other.1.key = entry.1.key with
        | none =>
          have nowhere := List.find?_eq_none.mp found entry member
          simp at nowhere
        | some other =>
          have sameKey : other.1.key = entry.1.key := by simpa using List.find?_some found
          rw [place_unique distinct (List.mem_of_find?_eq_some found) member sameKey]

/-- A place is selected when the key of its row is picked. -/
theorem contains_places (service : Service) {rows : List StoredRow} (distinct : DistinctKeys rows)
    (predicate : Option Predicate) (now : Nat) {entry : StoredRow × Nat} (member : entry ∈ rows.zipIdx) :
    ((service.selected rows predicate now).map Prod.snd).contains entry.2 =
      ((service.picked predicate (live rows now)).map StoredRow.key).contains entry.1.key := by
  rw [← selected_rows service distinct, List.map_map, Bool.eq_iff_iff, List.contains_iff_mem,
    List.contains_iff_mem]
  constructor
  · intro selected
    obtain ⟨other, picked, place⟩ := List.mem_map.mp selected
    have first := List.mem_zipIdx_iff_getElem?.mp (mem_of_mem_selected picked)
    have second := List.mem_zipIdx_iff_getElem?.mp member
    rw [place, second] at first
    exact List.mem_map.mpr ⟨other, picked, congrArg StoredRow.key (Option.some.inj first).symm⟩
  · intro selected
    obtain ⟨other, picked, key⟩ := List.mem_map.mp selected
    have same := place_unique distinct (mem_of_mem_selected picked) member key
    exact List.mem_map.mpr ⟨other, picked, congrArg Prod.snd same⟩

/-- Removing places removes the live rows whose keys are picked, and what has expired. -/
theorem without_selected (service : Service) {rows : List StoredRow} (distinct : DistinctKeys rows)
    (predicate : Option Predicate) (now : Nat) :
    without ((service.selected rows predicate now).map Prod.snd) now rows =
      (live rows now).filter fun row =>
        !((service.picked predicate (live rows now)).map StoredRow.key).contains row.key := by
  rw [without, live, List.filter_filter, ← filter_zipIdx]
  congr 1
  refine List.filter_congr fun entry member => ?_
  rw [contains_places service distinct predicate now member]
  rfl

/-- Stripping places strips the rows whose keys are picked. -/
theorem stripAt_selected (service : Service) {rows : List StoredRow} (distinct : DistinctKeys rows)
    (predicate : Option Predicate) (now : Nat) (names : List String) :
    stripAt ((service.selected rows predicate now).map Prod.snd) names rows =
      rows.map fun row =>
        if ((service.picked predicate (live rows now)).map StoredRow.key).contains row.key
        then strip names row else row := by
  have both : rows.map (fun row =>
      if ((service.picked predicate (live rows now)).map StoredRow.key).contains row.key
      then strip names row else row) = rows.zipIdx.map ((fun row =>
      if ((service.picked predicate (live rows now)).map StoredRow.key).contains row.key
      then strip names row else row) ∘ Prod.fst) := by
    rw [← List.map_map, List.zipIdx_map_fst]
  rw [both, stripAt]
  refine List.map_congr_left fun entry member => ?_
  rw [contains_places service distinct predicate now member]
  rfl

private theorem nodup_eraseDups (keys : List String) : keys.eraseDups.Nodup := by
  induction size : keys.length using Nat.strongRecOn generalizing keys with
  | ind count ih =>
    cases keys with
    | nil => simp
    | cons key rest =>
      have shorter : (rest.filter fun other => !other == key).length < count :=
        size ▸ Nat.lt_succ_of_le (List.length_filter_le ..)
      rw [List.eraseDups_cons, List.nodup_cons]
      exact ⟨by simp, ih _ shorter _ rfl⟩

theorem keys_of_lookup (keys : List String) (rows : List StoredRow) :
    ((keys.filterMap fun key => rows.find? fun row => row.key = key).map StoredRow.key).Sublist keys := by
  induction keys with
  | nil => exact List.Sublist.slnil
  | cons key rest ih =>
    rw [List.filterMap_cons]
    cases found : rows.find? fun row => row.key = key with
    | none => exact ih.cons key
    | some row =>
      have same : row.key = key := by simpa using List.find?_some found
      exact same ▸ ih.cons_cons row.key

theorem picked_distinct {service : Service} {rows : List StoredRow} (distinct : DistinctKeys rows)
    (predicate : Option Predicate) : DistinctKeys (service.picked predicate rows) := by
  cases predicate with
  | none => exact distinct
  | some predicate =>
    cases predicate with
    | filter filter => exact distinct.sublist (List.filter_sublist.map _)
    | keys lookup => exact (nodup_eraseDups lookup.keys).sublist (keys_of_lookup _ rows)

/-- A predicate picks no more rows than there are. -/
theorem length_picked_le (service : Service) {rows : List StoredRow} (distinct : DistinctKeys rows)
    (predicate : Option Predicate) : (service.picked predicate rows).length ≤ rows.length := by
  have subset : (service.picked predicate rows).map StoredRow.key ⊆ rows.map StoredRow.key := by
    intro key member
    obtain ⟨row, picked, rfl⟩ := List.mem_map.mp member
    exact List.mem_map.mpr ⟨row, mem_of_mem_picked picked, rfl⟩
  simpa using (List.subperm_of_subset (picked_distinct distinct predicate) subset).length_le

end Service

end Polystore.Store
