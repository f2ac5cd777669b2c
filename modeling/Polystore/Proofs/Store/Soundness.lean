import Polystore.Proofs.Store.Runs

/-!
What holds of every row that a store keeps, expired ones included, whatever its clients do: the keys of a
collection are distinct, the key of a row is the text of the key as it was given, no body has a field of the
key or of the revision, and revisions start at one.
-/
namespace Polystore.Store

open Polystore.Action

/-- A row as a store keeps it. -/
structure SoundRow (settings : Settings) (row : StoredRow) : Prop where
  keyText : row.keyValue.toText? = some row.key
  keyless : settings.key ∉ Named.names row.body
  revisionless : settings.revision ∉ Named.names row.body
  distinct : Named.Distinct row.body
  revised : 1 ≤ row.revision

/-- The rows of a collection as a store keeps them. -/
structure SoundRows (settings : Settings) (rows : List StoredRow) : Prop where
  distinct : DistinctKeys rows
  rows : ∀ row ∈ rows, SoundRow settings row

/-- A store of which every collection is sound, and which has no two collections of one name. -/
structure Sound (settings : Settings) (store : Store) : Prop where
  distinct : Named.Distinct store.collections
  collections : ∀ collection ∈ store.collections, SoundRows settings collection.value

theorem SoundRows.nil (settings : Settings) : SoundRows settings [] := ⟨List.nodup_nil, by simp⟩

theorem SoundRows.sublist {settings : Settings} {rows fewer : List StoredRow} (sound : SoundRows settings rows)
    (kept : fewer.Sublist rows) : SoundRows settings fewer :=
  ⟨sound.distinct.sublist (kept.map _), fun row member => sound.rows row (kept.subset member)⟩

theorem Sound.empty (settings : Settings) (start : Nat) : Sound settings { now := start } :=
  ⟨List.nodup_nil, by simp⟩

theorem Sound.rowsOf {settings : Settings} {store : Store} (sound : Sound settings store) (collection : String) :
    SoundRows settings (store.rowsOf collection) := by
  unfold Store.rowsOf
  cases known : Named.find? store.collections collection with
  | none => exact .nil settings
  | some rows => exact sound.collections _ (Named.mem_of_find? known)

theorem Sound.put {settings : Settings} {store : Store} (sound : Sound settings store) (collection : String)
    {rows : List StoredRow} (soundRows : SoundRows settings rows) :
    Sound settings (store.put collection rows) := by
  refine ⟨Named.distinct_insert sound.distinct collection rows, fun entry member => ?_⟩
  rcases Named.mem_insert member with old | new
  · exact sound.collections entry old
  · exact new ▸ soundRows

theorem SoundRows.map {settings : Settings} {rows : List StoredRow} (sound : SoundRows settings rows)
    {change : StoredRow → StoredRow}
    (changed : ∀ row ∈ rows, (change row).key = row.key ∧ SoundRow settings (change row)) :
    SoundRows settings (rows.map change) := by
  constructor
  · have keys : (rows.map change).map StoredRow.key = rows.map StoredRow.key := by
      rw [List.map_map]
      exact List.map_congr_left fun row member => (changed row member).1
    rw [DistinctKeys, keys]
    exact sound.distinct
  · intro row member
    obtain ⟨old, present, rfl⟩ := List.mem_map.mp member
    exact (changed old present).2

theorem SoundRows.set {settings : Settings} {rows : List StoredRow} {row : StoredRow}
    (sound : SoundRows settings rows) (soundRow : SoundRow settings row) : SoundRows settings (setRow row rows) := by
  refine ⟨distinctKeys_setRow sound.distinct row, fun other member => ?_⟩
  rcases mem_setRow member with old | new
  · exact sound.rows other old
  · exact new ▸ soundRow

theorem Settings.apart_of_take {environment : Environment} {name : String} {parameters after : Parameters}
    {settings : Settings} (taken : effect (take environment name) parameters = (.ok settings, after)) :
    settings.key ≠ settings.revision := by
  obtain ⟨_, _, _, taken⟩ := of_effect_bind_ok taken
  obtain ⟨key, _, _, taken⟩ := of_effect_bind_ok taken
  obtain ⟨revision, _, _, taken⟩ := of_effect_bind_ok taken
  obtain ⟨_, _, _, taken⟩ := of_effect_bind_ok taken
  obtain ⟨_, _, _, taken⟩ := of_effect_bind_ok taken
  obtain ⟨_, _, _, taken⟩ := of_effect_bind_ok taken
  dsimp only at taken
  split at taken
  · cases taken
  · rename_i apart
    obtain ⟨_, _, _, taken⟩ := of_effect_bind_ok taken
    obtain ⟨_, _, _, taken⟩ := of_effect_bind_ok taken
    cases taken
    exact apart

/-- A service that a url gives keeps the field of the key apart from that of the revision. -/
theorem Service.apart_of_connect {σ : Type} {environment : Environment} {registry : Registry} {text : String}
    {state after : σ} {service : Service}
    (connected : effect (Service.connect environment registry text) state = (.ok service, after)) :
    service.settings.key ≠ service.settings.revision := by
  obtain ⟨settings, _, given, connected⟩ := of_effect_bind_ok connected
  obtain ⟨_, _, _, connected⟩ := of_effect_bind_ok connected
  cases connected
  rw [effect_mapError] at given
  cases read : (effect (Settings.ofUrl environment text) state).1 with
  | error failure =>
    rw [read] at given
    cases given
  | ok found =>
    rw [read] at given
    cases given
    obtain ⟨connect, _, _, taken⟩ := of_effect_bind_ok (Prod.ext read rfl)
    rw [effect_alone] at taken
    have same := congrArg Prod.fst taken
    exact Settings.apart_of_take (Prod.ext same rfl)

theorem SoundRow.strip {settings : Settings} {row : StoredRow} (sound : SoundRow settings row)
    (names : List String) : SoundRow settings (Service.strip names row) := by
  have fewer : (Named.names (row.body.filter fun field => field.name ∉ names)).Sublist (Named.names row.body) :=
    List.filter_sublist.map _
  rw [Service.strip_eq]
  exact {
    keyText := sound.keyText
    keyless := fun member => sound.keyless (fewer.subset member)
    revisionless := fun member => sound.revisionless (fewer.subset member)
    distinct := sound.distinct.sublist fewer
    revised := Nat.le_add_left .. }

namespace Service

/-- The key of a draft is the text of its value. -/
theorem keyText_of_keyOf {service : Service} {mode : WriteMode} {entity : Entity} {madeKeys : Nat} {key : Key}
    (given : service.keyOf mode entity madeKeys = .ok key) : key.value.toText? = some key.text := by
  obtain ⟨field?, _, chosen⟩ := Except.of_bind_eq_ok given
  cases field? with
  | none =>
    cases chosen
    rfl
  | some field =>
    simp only at chosen
    split at chosen
    · rename_i text shown
      cases chosen
      exact shown
    · cases chosen

/-- A row that a write makes is sound. -/
theorem soundRow_of_entryIn {service : Service} {mode : WriteMode} {entity : Entity} {madeKeys now : Nat}
    {draft : Draft} {rows : List StoredRow} {row : StoredRow}
    (drafted : service.draft mode entity madeKeys = .ok draft) (made : entryIn mode now draft rows = some row) :
    SoundRow service.settings row := by
  obtain ⟨key, keyValue, body, revised⟩ := of_entryIn_eq_some made
  obtain ⟨given, written⟩ := of_draft_eq_ok drafted
  exact {
    keyText := by rw [keyValue, key]; exact keyText_of_keyOf given
    keyless := by rw [body]; exact Converter.not_mem_names_written written (by simp)
    revisionless := by rw [body]; exact Converter.not_mem_names_written written (by simp)
    distinct := by rw [body]; exact Converter.distinct_written written
    revised := revised }

/-- However a write ends, it leaves a sound store. -/
theorem WriteEnd.sound {service : Service} {mode : WriteMode} {entity : Entity} {store : Store}
    {ending : Except Failure Entity × Store} (sound : Sound service.settings store)
    (ends : WriteEnd service mode entity store ending) : Sound service.settings ending.2 := by
  have rows : SoundRows service.settings (found store entity) :=
    (sound.rowsOf entity.collection).sublist List.filter_sublist
  cases ends with
  | undrafted failure undrafted => exact sound
  | closed draft drafted isClosed => exact sound
  | absent draft drafted isOpen absent => exact sound.put _ rows
  | written draft drafted isOpen row written =>
    have after := sound.put entity.collection (rows.set (soundRow_of_entryIn drafted written))
    exact ⟨after.distinct, after.collections⟩

/-- However a removal ends, it leaves a sound store. -/
theorem DeleteEnd.sound {service : Service} {query : DeleteQuery} {store : Store}
    {ending : Except Failure Nat × Store} (sound : Sound service.settings store)
    (ends : DeleteEnd service query store ending) : Sound service.settings ending.2 := by
  cases ends with
  | unplanned failure unplanned => exact sound
  | closed predicate planned isClosed => exact sound
  | unknown predicate planned isOpen unknown => exact sound
  | removed predicate planned isOpen rows known =>
    have soundRows := sound.collections _ (Named.mem_of_find? known)
    refine sound.put _ ?_
    unfold remaining
    split
    · rw [without_selected service soundRows.distinct]
      exact soundRows.sublist (List.filter_sublist.trans List.filter_sublist)
    · rw [stripAt_selected service soundRows.distinct]
      refine soundRows.map fun row member => ?_
      split
      · exact ⟨rfl, (soundRows.rows row member).strip query.projection⟩
      · exact ⟨rfl, soundRows.rows row member⟩

/-- What one operation preserves. -/
theorem step_sound {service : Service} {store : Store} (sound : Sound service.settings store)
    (operation : Operation) : Sound service.settings (service.step operation store).2 := by
  cases operation with
  | write mode entity =>
    rw [step_write]
    exact (write_end service mode entity store).sound sound
  | delete query =>
    rw [step_delete]
    exact (delete_end service query store).sound sound
  | select query cursor =>
    rw [step_select service query cursor (sound.rowsOf query.collection).distinct]
    exact sound
  | close => exact ⟨sound.distinct, sound.collections⟩
  | elapse milliseconds => exact ⟨sound.distinct, sound.collections⟩

theorem run_sound {service : Service} {store : Store} (sound : Sound service.settings store)
    (operations : List Operation) : Sound service.settings (service.run operations store).state :=
  runSteps_preserves (Sound service.settings) (fun operation _ holds => step_sound holds operation) operations sound

/-- The fields of a row as it is read, in their order. -/
theorem view_eq_append {service : Service} {row : StoredRow} (sound : SoundRow service.settings row)
    (apart : service.settings.key ≠ service.settings.revision) :
    service.view row = row.body ++ [⟨service.settings.key, .scalar row.keyValue⟩,
      ⟨service.settings.revision, .scalar (revisionValue row.revision)⟩] := by
  have later : service.settings.revision ∉
      Named.names (row.body ++ [⟨service.settings.key, Native.scalar row.keyValue⟩]) := by
    simpa [Named.names, apart.symm] using sound.revisionless
  rw [view, Named.insert_of_not_mem sound.keyless, Named.insert_of_not_mem later, List.append_assoc]
  rfl

theorem distinct_view {service : Service} {row : StoredRow} (sound : SoundRow service.settings row) :
    Named.Distinct (service.view row) :=
  Named.distinct_insert (Named.distinct_insert sound.distinct ..) ..

theorem find?_view_key (service : Service) (apart : service.settings.key ≠ service.settings.revision)
    (row : StoredRow) : Named.find? (service.view row) service.settings.key = some (.scalar row.keyValue) := by
  rw [view, Named.find?_insert, if_neg apart.symm, Named.find?_insert, if_pos rfl]

theorem find?_view_field (service : Service) {name : String} (noKey : name ≠ service.settings.key)
    (noRevision : name ≠ service.settings.revision) (row : StoredRow) :
    Named.find? (service.view row) name = Named.find? row.body name := by
  rw [view, Named.find?_insert, if_neg noRevision.symm, Named.find?_insert, if_neg noKey.symm]

/-- Whatever clients do, with whatever success, a store that starts empty keeps sound rows. Each of them is read
with one field of the key and one of the revision, behind the fields of its body. -/
theorem run_keeps_rows_sound (service : Service) (apart : service.settings.key ≠ service.settings.revision)
    (operations : List Operation) (start : Nat) :
    ∀ collection ∈ (service.run operations { now := start }).state.collections,
      SoundRows service.settings collection.value ∧
        ∀ row ∈ collection.value,
          service.view row = row.body ++ [⟨service.settings.key, .scalar row.keyValue⟩,
            ⟨service.settings.revision, .scalar (revisionValue row.revision)⟩] ∧
          Named.Distinct (service.view row) := by
  intro collection member
  have sound : Sound service.settings (service.run operations { now := start }).state :=
    run_sound (.empty _ start) operations
  have rows := sound.collections collection member
  refine ⟨rows, fun row present => ?_⟩
  exact ⟨view_eq_append (rows.rows row present) apart, distinct_view (rows.rows row present)⟩

/-- A row whose key had expired and was written again. -/
theorem run_keeps_rewritten_row_sound :
    let service : Service := { settings := {}, converter := {} }
    let entity : Entity := ⟨"c", [⟨"_id", .text "a"⟩, ⟨"n", .text "b"⟩]⟩
    let row : StoredRow := ⟨"a", .text "a", [⟨"n", .scalar (.text "b")⟩], 1, none⟩
    let operations := [.write (.insert (some 4)) entity, .elapse 5, .write (.insert none) entity]
    (service.run operations {}).state.collections = [⟨"c", [row]⟩] ∧
      service.view row = [⟨"n", .scalar (.text "b")⟩, ⟨"_id", .scalar (.text "a")⟩,
        ⟨"_rev", .scalar (revisionValue 1)⟩] := by
  intro service entity row operations
  have collections : (service.run operations {}).state.collections = [⟨"c", [row]⟩] := by
    simp only [service, entity, row, operations]
    rfl
  have kept := run_keeps_rows_sound service (by decide) operations 0 ⟨"c", [row]⟩
    (collections ▸ List.mem_singleton_self _)
  exact ⟨collections, (kept.2 row (List.mem_singleton_self _)).1⟩

end Service

end Polystore.Store
