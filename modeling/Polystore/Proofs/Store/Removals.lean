import Polystore.Proofs.Store.Shown

/-!
What a removal removes. It works on places of rows, which its predicate selects, and so it concerns the rows that a read
with the same condition gives: as wholes, when expired rows go with them, or some fields of each, when every row keeps
its place.
-/
namespace Polystore.Store

open Polystore.Action

/-- Some of the rows of a collection are told by their keys. -/
theorem contains_key_iff {rows some : List StoredRow} (distinct : DistinctKeys rows) (fewer : ∀ row ∈ some, row ∈ rows)
    {row : StoredRow} (member : row ∈ rows) : (some.map StoredRow.key).contains row.key = true ↔ row ∈ some := by
  rw [List.contains_iff_mem]
  constructor
  · intro keyed
    obtain ⟨other, present, same⟩ := List.mem_map.mp keyed
    rwa [List.inj_on_of_nodup_map distinct (fewer other present) member same] at present
  · exact List.mem_map_of_mem

namespace Service

theorem planned_eq_ok_iff {service : Service} {query : DeleteQuery} {predicate : Option Predicate} :
    service.planned query = .ok predicate ↔ Text.isAllBlank query.collection = false ∧
      service.predicateFor query.condition = .ok predicate ∧
      (predicate = none → service.settings.addressing = .document) := by
  constructor
  · intro planned
    obtain ⟨_, visible, planned⟩ := Except.of_bind_eq_ok planned
    obtain ⟨built, accepted, planned⟩ := Except.of_bind_eq_ok planned
    split at planned
    · cases planned
    · rename_i addressed
      obtain rfl := Except.ok.inj planned
      refine ⟨(requireCollection_eq_ok_iff.mp visible).1, accepted, fun none => ?_⟩
      subst none
      cases mode : service.settings.addressing with
      | document => rfl
      | keyed => simp [mode] at addressed
  · rintro ⟨visible, accepted, addressed⟩
    rw [planned, requireCollection_eq_ok_iff.mpr ⟨visible, rfl⟩, accepted]
    cases predicate with
    | none => simp [addressed rfl]
    | some predicate => rfl

/-- A removal that passes its checks counts the rows that its predicate picks among the live ones, leaves what remains
of the rows of its collection, and leaves other collections alone. -/
theorem step_delete_of_planned {service : Service} {store : Store} {query : DeleteQuery} {predicate : Option Predicate}
    (isOpen : store.isClosed = false) (planned : service.planned query = .ok predicate)
    (distinct : DistinctKeys (store.rowsOf query.collection)) :
    ∃ after, service.step (.delete query) store =
        (.ok (.count (service.picked predicate (live (store.rowsOf query.collection) store.now)).length), after) ∧
      after.rowsOf query.collection = service.remaining query predicate store.now (store.rowsOf query.collection) ∧
      after.now = store.now ∧ after.isClosed = false ∧
      ∀ other, other ≠ query.collection → Named.find? after.collections other = Named.find? store.collections other := by
  have ends := delete_end service query store
  rw [step_delete]
  generalize effect (service.delete query) store = ending at ends
  cases ends with
  | unplanned failure unplanned => cases planned.symm.trans unplanned
  | closed other _ isClosed => cases isOpen.symm.trans isClosed
  | unknown other planned' _ unknown =>
    cases planned.symm.trans planned'
    have none : store.rowsOf query.collection = [] := by rw [rowsOf, unknown]; rfl
    refine ⟨store, ?_, ?_, rfl, isOpen, fun _ _ => rfl⟩
    · rw [none, live_nil, picked_nil]
      rfl
    · rw [none, remaining]
      split <;> rfl
  | removed other planned' _ rows known =>
    cases planned.symm.trans planned'
    have all : store.rowsOf query.collection = rows := by rw [rowsOf, known]; rfl
    rw [all] at distinct ⊢
    refine ⟨store.put query.collection (service.remaining query predicate store.now rows), ?_, ?_, rfl, isOpen,
      fun other apart => ?_⟩
    · rw [← selected_rows service distinct, List.length_map]
      rfl
    · rw [rowsOf_put, if_pos rfl]
    · rw [put, Named.find?_insert, if_neg apart.symm]

/-- What remains of whole rows are the live rows that are not picked, in their order, and no one of them is picked. -/
theorem remaining_whole (service : Service) {query : DeleteQuery} (wholly : query.projection = [])
    {rows : List StoredRow} (distinct : DistinctKeys rows) (predicate : Option Predicate) (now : Nat) :
    (service.remaining query predicate now rows).Sublist (live rows now) ∧
      ∀ row, row ∈ service.remaining query predicate now rows ↔
        row ∈ live rows now ∧ row ∉ service.picked predicate (live rows now) := by
  have kept : service.remaining query predicate now rows = (live rows now).filter fun row =>
      !((service.picked predicate (live rows now)).map StoredRow.key).contains row.key := by
    rw [remaining, wholly]
    exact service.without_selected distinct predicate now
  rw [kept]
  refine ⟨List.filter_sublist, fun row => ?_⟩
  rw [List.mem_filter]
  refine and_congr_right fun lives => ?_
  have fewer (row : StoredRow) (picked : row ∈ service.picked predicate (live rows now)) : row ∈ live rows now :=
    mem_of_mem_picked picked
  have keyed := contains_key_iff (distinctKeys_live distinct now) fewer lives
  rw [Bool.not_eq_true', ← Bool.not_eq_true, keyed]

theorem names_view {service : Service} {row : StoredRow} (sound : SoundRow service.settings row) :
    Named.names (service.view row) = Named.names row.body ++ [service.settings.key] ++
      if service.settings.revision = service.settings.key then [] else [service.settings.revision] := by
  rw [view, Named.names_insert, Named.names_insert, if_neg sound.keyless]
  by_cases same : service.settings.revision = service.settings.key
  · simp [same]
  · rw [if_neg same, if_neg]
    simp [same, sound.revisionless]

/-- The key and the revision are shown of a row whatever is stripped of it. -/
theorem names_view_strip {service : Service} {row : StoredRow} (sound : SoundRow service.settings row)
    (names : List String) :
    Named.names (service.view (strip names row)) = (Named.names (service.view row)).filter fun name =>
      name = service.settings.key ∨ name = service.settings.revision ∨ name ∉ names := by
  have body : Named.names (strip names row).body = (Named.names row.body).filter fun name =>
      name = service.settings.key ∨ name = service.settings.revision ∨ name ∉ names := by
    rw [strip_eq, Named.names, Named.names, List.filter_map]
    congr 1
    refine List.filter_congr fun field member => ?_
    have named : field.name ∈ Named.names row.body := List.mem_map_of_mem member
    have noKey : field.name ≠ service.settings.key := fun same => sound.keyless (same ▸ named)
    have noRevision : field.name ≠ service.settings.revision := fun same => sound.revisionless (same ▸ named)
    simp [noKey, noRevision]
  rw [names_view (sound.strip names), names_view sound, List.filter_append, List.filter_append, body]
  by_cases same : service.settings.revision = service.settings.key <;> simp [same]

/-- What remains of fields are all rows, each in its place, and those that are picked have been stripped. -/
theorem remaining_fields (service : Service) {query : DeleteQuery} (partly : query.projection ≠ [])
    {rows : List StoredRow} (sound : SoundRows service.settings rows) (predicate : Option Predicate) (now : Nat) :
    List.Forall₂ (fun old new =>
        (old ∈ service.picked predicate (live rows now) →
          new = { old with
            body := old.body.filter fun field => field.name ∉ query.projection
            revision := old.revision + 1 } ∧
          Named.names (service.view new) = (Named.names (service.view old)).filter fun name =>
            name = service.settings.key ∨ name = service.settings.revision ∨ name ∉ query.projection) ∧
        (old ∉ service.picked predicate (live rows now) → new = old))
      rows (service.remaining query predicate now rows) := by
  have stripped : service.remaining query predicate now rows = rows.map fun row =>
      if ((service.picked predicate (live rows now)).map StoredRow.key).contains row.key
      then strip query.projection row else row := by
    rw [remaining, if_neg (by simpa using partly)]
    exact service.stripAt_selected sound.distinct predicate now query.projection
  rw [stripped, List.forall₂_map_right_iff]
  refine List.forall₂_same.mpr fun row member => ?_
  have fewer (row : StoredRow) (picked : row ∈ service.picked predicate (live rows now)) : row ∈ rows :=
    (mem_live.mp (mem_of_mem_picked picked)).1
  have keyed := contains_key_iff sound.distinct fewer member
  constructor
  · intro picked
    rw [if_pos (keyed.mpr picked)]
    exact ⟨strip_eq query.projection row, names_view_strip (sound.rows row member) query.projection⟩
  · intro spared
    exact if_neg (mt keyed.mp spared)

/-- A read that asks for all rows of a condition gives those that its predicate picks among the live ones, as many as
it can count. -/
theorem effect_selectAll_whole (service : Service) {store : Store} {collection : String} {condition : Option Condition}
    {predicate : Option Predicate} (isOpen : store.isClosed = false) (distinct : DistinctKeys (store.rowsOf collection))
    (visible : Text.isAllBlank collection = false) (accepted : service.predicateFor condition = .ok predicate) :
    let query : Query := { collection := collection, condition := condition }
    effect (service.selectAll query) store =
      (.ok (((service.picked predicate (live (store.rowsOf collection) store.now)).take wordMax).map
        (service.shown query)), store) := by
  intro query
  have read : effect (service.selectAll query) store =
      (.ok (service.reading query predicate (live (store.rowsOf collection) store.now)), store) :=
    service.effect_selectAll isOpen distinct visible accepted
  rw [service.reading_of_unsorted rfl] at read
  simpa [query] using read

/-- A removal concerns just the rows that a read of its condition gives. It removes them, or strips them of the fields
named, and leaves all others as they are. -/
theorem delete_removes_what_select_sees (service : Service) (operations : List Operation) (start : Nat)
    (query : DeleteQuery) (predicate : Option Predicate)
    (isOpen : (service.run operations { now := start }).state.isClosed = false)
    (visible : Text.isAllBlank query.collection = false)
    (accepted : service.predicateFor query.condition = .ok predicate)
    (addressed : predicate = none → service.settings.addressing = .document) :
    let store := (service.run operations { now := start }).state
    let rows := store.rowsOf query.collection
    let seen := service.picked predicate (live rows store.now)
    let all : Query := { collection := query.collection, condition := query.condition }
    effect (service.selectAll all) store = (.ok ((seen.take wordMax).map (service.shown all)), store) ∧
      (∀ row ∈ seen, row ∈ live rows store.now) ∧ DistinctKeys seen ∧
      ∃ after, service.step (.delete query) store = (.ok (.count seen.length), after) ∧
        (query.projection = [] →
          (after.rowsOf query.collection).Sublist (live rows store.now) ∧
            (∀ row, row ∈ after.rowsOf query.collection ↔ row ∈ live rows store.now ∧ row ∉ seen) ∧
            effect (service.selectAll all) after = (.ok [], after)) ∧
        (query.projection ≠ [] →
          List.Forall₂ (fun old new =>
              (old ∈ seen →
                new = { old with
                  body := old.body.filter fun field => field.name ∉ query.projection
                  revision := old.revision + 1 } ∧
                Named.names (service.view new) = (Named.names (service.view old)).filter fun name =>
                  name = service.settings.key ∨ name = service.settings.revision ∨ name ∉ query.projection) ∧
              (old ∉ seen → new = old))
            rows (after.rowsOf query.collection)) ∧
        ∀ other, other ≠ query.collection →
          Named.find? after.collections other = Named.find? store.collections other := by
  intro store rows seen all
  have sound : Sound service.settings store := run_sound (.empty service.settings start) operations
  have soundRows : SoundRows service.settings rows := sound.rowsOf query.collection
  have lives : DistinctKeys (live rows store.now) := distinctKeys_live soundRows.distinct store.now
  have planned : service.planned query = .ok predicate := planned_eq_ok_iff.mpr ⟨visible, accepted, addressed⟩
  obtain ⟨after, removed, remains, now, still, others⟩ := step_delete_of_planned isOpen planned soundRows.distinct
  refine ⟨service.effect_selectAll_whole isOpen soundRows.distinct visible accepted,
    fun row => mem_of_mem_picked, picked_distinct lives predicate, after, removed, ?_, ?_, others⟩
  · intro wholly
    obtain ⟨kept, exactly⟩ := service.remaining_whole wholly soundRows.distinct predicate store.now
    rw [← remains] at kept exactly
    refine ⟨kept, exactly, ?_⟩
    have distinct : DistinctKeys (after.rowsOf query.collection) := lives.sublist (kept.map StoredRow.key)
    -- Whether a row is picked depends on the row alone, so what is picked among those left would have been removed.
    have none : service.picked predicate (live (after.rowsOf query.collection) after.now) = [] := by
      refine List.eq_nil_iff_forall_not_mem.mpr fun row member => ?_
      obtain ⟨present, picks⟩ := (mem_picked_iff (distinctKeys_live distinct after.now)).mp member
      obtain ⟨before, unseen⟩ := (exactly row).mp (mem_live.mp present).1
      exact unseen ((mem_picked_iff lives).mpr ⟨before, picks⟩)
    have read := service.effect_selectAll_whole still distinct visible accepted
    rwa [none] at read
  · intro partly
    have stripped := service.remaining_fields partly soundRows predicate store.now
    rwa [← remains] at stripped

/-- Of three rows the second has expired, and the last is asked for twice. -/
theorem delete_strips_row_behind_expired :
    let service : Service := { settings := { addressing := .keyed }, converter := {} }
    let fields : List Field := [⟨"n", .text "x"⟩, ⟨"m", .text "y"⟩]
    let body : Row := [⟨"n", .scalar (.text "x")⟩, ⟨"m", .scalar (.text "y")⟩]
    let insert (key : String) (lifetime : Option Nat) : Operation :=
      .write (.insert lifetime) ⟨"c", ⟨"_id", .text key⟩ :: fields⟩
    let row (key : String) (expiry : Option Nat) : StoredRow := ⟨key, .text key, body, 1, expiry⟩
    let store := (service.run [insert "a" none, insert "b" (some 4), insert "d" none, .elapse 5] {}).state
    let keys : Value := .list [.text "d", .text "b", .text "d"] .null
    let query : DeleteQuery :=
      { collection := "c", condition := some (.leaf .isIn ⟨"_id", keys⟩), projection := ["n", "_id"] }
    store.rowsOf "c" = [row "a" none, row "b" (some 4), row "d" none] ∧
      ∃ after, service.step (.delete query) store = (.ok (.count 1), after) ∧
        after.rowsOf "c" = [row "a" none, row "b" (some 4),
          ⟨"d", .text "d", [⟨"m", .scalar (.text "y")⟩], 2, none⟩] := by
  intro service fields body insert row store keys query
  have rows : store.rowsOf "c" = [row "a" none, row "b" (some 4), row "d" none] := by
    simp only [store, service, insert, fields, row, body]
    rfl
  let seen : List StoredRow := service.picked (some (.keys ⟨["d", "b", "d"]⟩))
    (live [row "a" none, row "b" (some 4), row "d" none] store.now)
  have last : seen = [row "d" none] := rfl
  have isOpen : store.isClosed = false := by
    simp only [store, service, insert, fields]
    rfl
  obtain ⟨_, _, _, after, removed, _, stripped, _⟩ := delete_removes_what_select_sees service
    [insert "a" none, insert "b" (some 4), insert "d" none, .elapse 5] 0 query (some (.keys ⟨["d", "b", "d"]⟩)) isOpen
    (by decide) rfl (by simp)
  have met : row "d" none ∈ seen := last ▸ List.mem_singleton_self _
  have spared (key : String) (expiry : Option Nat) (other : key ≠ "d") : row key expiry ∉ seen := by
    rw [last, List.mem_singleton]
    exact fun same => other (congrArg StoredRow.key same)
  have each := stripped (List.cons_ne_nil _ _)
  change service.step (.delete query) store = (.ok (.count (service.picked (some (.keys ⟨["d", "b", "d"]⟩))
    (live (store.rowsOf "c") store.now)).length), after) at removed
  change List.Forall₂ _ (store.rowsOf "c") (after.rowsOf "c") at each
  rw [rows] at removed each
  refine ⟨rows, after, removed, ?_⟩
  generalize after.rowsOf "c" = remains at each
  cases each with
  | cons first each =>
    cases each with
    | cons second each =>
      cases each with
      | cons third each =>
        cases each
        rw [first.2 (spared "a" none (by decide)), second.2 (spared "b" (some 4) (by decide)), (third.1 met).1]
        rfl

end Service

end Polystore.Store
