import Polystore.Proofs.Converter.Elements
import Polystore.Proofs.Store.Revisions

/-!
Elements of types in the fields of a store. What an insert has written under a key is what every later read of the key
shows, and from the field of an element that was written once the element is read again.
-/
namespace Polystore.Store

open Polystore.Action

theorem Sound.elapse {settings : Settings} {store : Store} (sound : Sound settings store) (milliseconds : Nat) :
    Sound settings (store.elapse milliseconds) :=
  ⟨sound.distinct, sound.collections⟩

namespace Service

theorem find?_stamped_key {service : Service} (apart : service.settings.key ≠ service.settings.revision)
    (entity : Entity) (key : Key) (revision : Nat) :
    (service.stamped entity key revision).find? service.settings.key = some ⟨service.settings.key, key.value⟩ := by
  unfold stamped Entity.replaceAll
  rw [List.foldl_cons, List.foldl_cons, List.foldl_nil, Entity.find?_replace_of_ne _ apart.symm]
  exact entity.find?_replace ⟨service.settings.key, key.value⟩

/-- An entity that a later read shows under the key of a written one stands for the row that was written. -/
theorem StandsFor.written {service : Service} {store after : Store} (sound : Sound service.settings store)
    (apart : service.settings.key ≠ service.settings.revision) {mode : WriteMode} {entity written : Entity}
    (ends : WriteEnd service mode entity store (.ok written, after)) {elapsed : Nat} {query : Query} {shown : Entity}
    {row : StoredRow} (stands : service.StandsFor (after.elapse elapsed) query shown row)
    (here : query.collection = entity.collection)
    (same : shown.find? service.settings.key = written.find? service.settings.key) :
    service.converter.written entity [service.settings.key, service.settings.revision] = .ok row.body := by
  have sounds := ends.sound sound
  cases ends with
  | written draft drafted isOpen row' made =>
    obtain ⟨given, bodied⟩ := of_draft_eq_ok drafted
    obtain ⟨key, keyValue, body, _⟩ := of_entryIn_eq_some made
    obtain ⟨shownKey, keyText⟩ := stands.key apart
    rw [shownKey, find?_stamped_key apart] at same
    have value : row.keyValue = draft.key.value := congrArg Named.value (Option.some.inj same)
    rw [value, keyText_of_keyOf given] at keyText
    have sameKey : row'.key = row.key := key.trans (Option.some.inj keyText)
    have lives := rowOf?_elapse (sounds.rowsOf query.collection).distinct
      (rowOf?_of_mem ((sounds.elapse elapsed).rowsOf query.collection).distinct stands.lives)
    rw [rowOf?_commit (sound.rowsOf entity.collection).distinct, if_pos ⟨here.symm, sameKey⟩] at lives
    have isRow : row' = row := Option.some.inj (Option.filter_eq_some_iff.mp lives).1
    rw [bodied, ← isRow, body]

/-- The row of an insert expires when its lifetime is over, if it has one. -/
theorem expiry_of_insert {lifetime : Option Nat} {now : Nat} {draft : Draft} {rows : List StoredRow} {row : StoredRow}
    (made : entryIn (.insert lifetime) now draft rows = some row) : row.expiry = lifetime.map (now + ·) := by
  unfold entryIn at made
  cases present : rows.find? fun old => old.key = draft.key.text with
  | some old =>
    rw [present] at made
    cases made
    rfl
  | none =>
    rw [present] at made
    cases made
    rfl

/-- While its lifetime lasts, the row of an insert lives under the key that the insert has given back. -/
theorem WriteEnd.lives {service : Service} (apart : service.settings.key ≠ service.settings.revision)
    {lifetime : Option Nat} {store after : Store} {entity written : Entity}
    (ends : WriteEnd service (.insert lifetime) entity store (.ok written, after)) {elapsed : Nat}
    (within : ∀ milliseconds ∈ lifetime, elapsed < milliseconds) :
    ∃ row ∈ live ((after.elapse elapsed).rowsOf entity.collection) (after.elapse elapsed).now,
      written.find? service.settings.key = some ⟨service.settings.key, row.keyValue⟩ := by
  cases ends with
  | written draft drafted isOpen row made =>
    obtain ⟨_, keyValue, _, _⟩ := of_entryIn_eq_some made
    refine ⟨row, mem_live.mpr ⟨?_, ?_⟩, by rw [find?_stamped_key apart, keyValue]⟩
    · have rows : ((commit store entity.collection draft.key (setRow row (found store entity))).elapse elapsed).rowsOf
          entity.collection = setRow row (found store entity) := by
        have put : ((commit store entity.collection draft.key (setRow row (found store entity))).elapse elapsed).rowsOf
            entity.collection = (store.put entity.collection (setRow row (found store entity))).rowsOf
              entity.collection := rfl
        rw [put, rowsOf_put, if_pos rfl]
      have there := find?_setRow row (found store entity) row.key
      rw [if_pos rfl] at there
      rw [rows]
      exact List.mem_of_find?_eq_some there
    · have now : ((commit store entity.collection draft.key (setRow row (found store entity))).elapse elapsed).now =
          store.now + elapsed := rfl
      rw [now, StoredRow.isExpired, expiry_of_insert made]
      cases lifetime with
      | none => rfl
      | some milliseconds =>
        have lasts : elapsed < milliseconds := within milliseconds rfl
        simp only [Option.map_some, Option.any_some, decide_eq_false_iff_not]
        omega

/-- A write that gives an entity leaves an open store, and its collection has a name. -/
theorem WriteEnd.accepted {service : Service} {mode : WriteMode} {store after : Store} {entity written : Entity}
    (ends : WriteEnd service mode entity store (.ok written, after)) :
    after.isClosed = false ∧ Text.isAllBlank entity.collection = false := by
  cases ends with
  | written draft drafted isOpen row made =>
    obtain ⟨collection, named, _⟩ := Except.of_bind_eq_ok drafted
    exact ⟨isOpen, (requireCollection_eq_ok_iff.mp named).1⟩

/-- Every live row of an open store can be selected on its own. -/
theorem exists_select_of_lives (service : Service) {store : Store} (sound : Sound service.settings store)
    (isOpen : store.isClosed = false) {collection : String} (visible : Text.isAllBlank collection = false)
    {row : StoredRow} (lives : row ∈ live (store.rowsOf collection) store.now) :
    ∃ query page, query.collection = collection ∧ query.projection = [] ∧
      (service.step (.select query .start) store).1 = .ok (.page page) ∧
      page.entities = [service.shown query row] := by
  obtain ⟨place, within, here⟩ := List.mem_iff_getElem.mp lives
  let query : Query := { collection := collection, skip := some place, limit := some 1 }
  have taken : ((live (store.rowsOf collection) store.now).drop place).take (min 1 wordMax) = [row] := by
    rw [List.drop_eq_getElem_cons within, here]
    rfl
  have reads : service.reading query none (live (store.rowsOf collection) store.now) = [service.shown query row] := by
    rw [service.reading_of_unsorted rfl]
    exact congrArg (List.map (service.shown query)) taken
  have accepted : service.predicateFor query.condition = .ok none := rfl
  have gives := service.step_select query .start (sound.rowsOf collection).distinct
  rw [isOpen, Cursor.start, reads_eq visible accepted rfl, reads] at gives
  refine ⟨query, _, rfl, rfl, congrArg Prod.fst gives, ?_⟩
  unfold piece
  split
  · have some : 1 ≤ service.rowsPerPage query := Nat.le_max_left ..
    have stop : min (0 + service.rowsPerPage query) [service.shown query row].length = 1 := by
      rw [List.length_singleton]
      omega
    simp only [pageFrom, stop]
    rfl
  · rfl

/-- An element that is inserted is read back as the same element, as long as its row lives and whatever the settings.
-/
theorem inserted_element_reads_back (service : Service) (standard : service.converter.registry = .standard)
    (apart : service.settings.key ≠ service.settings.revision) (operations : List Operation) (start : Nat)
    {lifetime : Option Nat} {entity written : Entity} {after : Store}
    (inserted : service.step (.write (.insert lifetime) entity) (service.run operations { now := start }).state =
      (.ok (.entity written), after))
    {type : DataType} (faithful : type.IsFaithful) (element : type.Element) {name : String}
    (noKey : name ≠ service.settings.key) (noRevision : name ≠ service.settings.revision)
    (once : entity.findAll name = [⟨name, type.encode element⟩]) :
    (∀ elapsed query cursor page, query.collection = entity.collection →
      query.projection = [] ∨ name ∈ query.projection →
      (service.step (.select query cursor) (after.elapse elapsed)).1 = .ok (.page page) →
      ∀ shown ∈ page.entities, shown.find? service.settings.key = written.find? service.settings.key →
        ∃ field, shown.find? name = some field ∧ field.get type = .ok element) ∧
    (∀ elapsed, (∀ milliseconds ∈ lifetime, elapsed < milliseconds) →
      ∃ query page shown, query.collection = entity.collection ∧ query.projection = [] ∧
        (service.step (.select query .start) (after.elapse elapsed)).1 = .ok (.page page) ∧
        page.entities = [shown] ∧ shown.find? service.settings.key = written.find? service.settings.key) ∧
    ∀ writer ∈ [Writer.temporal, Writer.uuid], ∀ (type : ScalarType) (value : type.Carrier) (stored : Value),
      writer.write (.scalar type (some value)) = .ok stored →
        ∃ text, stored = .text text ∧ (DataType.scalar type).parse text = .ok value := by
  have sound : Sound service.settings (service.run operations { now := start }).state :=
    run_sound (.empty _ start) operations
  have ends := of_step_write_eq_ok inserted
  have sounds : Sound service.settings after := ends.sound sound
  refine ⟨?_, ?_, ?_⟩
  · intro elapsed query cursor page here asked gives shown member same
    obtain ⟨row, stands⟩ := of_mem_selected_page (sounds.elapse elapsed) gives member
    have body := stands.written sound apart ends here same
    have unreserved : name ∉ [service.settings.key, service.settings.revision] := by simp [noKey, noRevision]
    have last : (entity.findAll name).getLast? = some ⟨name, type.encode element⟩ := by rw [once]; rfl
    obtain ⟨native, converted, present⟩ := Converter.find?_written body unreserved last
    have back := Converter.givesBack_of_written standard faithful converted
    refine ⟨⟨name, service.converter.read native⟩, ?_, ?_⟩
    · rw [stands.isShown, service.find?_shown_field asked noKey noRevision, present]
      rfl
    · have decoded : type.decode (service.converter.read native) = .ok element := back.decoded
      rw [Field.get, Value.get, decoded]
      rfl
  · intro elapsed within
    obtain ⟨row, lives, key⟩ := ends.lives apart within
    obtain ⟨isOpen, visible⟩ := ends.accepted
    obtain ⟨query, page, here, whole, gives, entities⟩ :=
      service.exists_select_of_lives (sounds.elapse elapsed) isOpen visible lives
    refine ⟨query, page, service.shown query row, here, whole, gives, entities, ?_⟩
    rw [service.find?_shown_key apart, key]
  · intro writer member type value stored writes
    rcases List.mem_pair.mp member with rfl | rfl
    · exact Writer.parse_of_temporal writes
    · exact Writer.parse_of_uuid writes

/-- A list of optional timestamps, one of them half a second before midnight of a leap day and with an offset that is
less than an hour, is read again one millisecond before its row expires. -/
theorem inserted_timestamps_read_back :
    let converter : Converter := { registry := .standard, settings := { policy := .strict, layout := .embedded } }
    let service : Service := { settings := {}, converter := converter }
    let timestamp : OffsetTimestamp :=
      ⟨⟨⟨2024, 2, 29, by decide⟩, ⟨23, 59, 59, 500000000, by decide⟩⟩, -1800, by decide⟩
    let type : DataType := .vector (.optional (.scalar .offsetTimestamp))
    let element : type.Element := [some timestamp, none]
    let entity : Entity := ⟨"c", [⟨"_id", .text "a"⟩, ⟨"t", type.encode element⟩]⟩
    ∃ written after, service.step (.write (.insert (some 5)) entity) {} = (.ok (.entity written), after) ∧
      ∃ query page shown field, (service.step (.select query .start) (after.elapse 4)).1 = .ok (.page page) ∧
        page.entities = [shown] ∧ shown.find? "t" = some field ∧ field.get type = .ok element := by
  intro converter service timestamp type element entity
  have inserted : ∃ written after,
      service.step (.write (.insert (some 5)) entity) {} = (.ok (.entity written), after) := by
    simp only [service, converter, entity, element, type, timestamp]
    exact ⟨_, _, rfl⟩
  obtain ⟨written, after, inserted⟩ := inserted
  have faithful : type.IsFaithful := ⟨trivial, fun _ => rfl⟩
  have noKey : "t" ≠ service.settings.key := by decide
  have noRevision : "t" ≠ service.settings.revision := by decide
  obtain ⟨read, selected, _⟩ := inserted_element_reads_back service rfl (by decide) [] 0 inserted faithful element
    noKey noRevision rfl
  obtain ⟨query, page, shown, here, whole, gives, entities, key⟩ := selected 4 (by simp)
  obtain ⟨field, present, back⟩ := read 4 query .start page here (Or.inl whole) gives shown
    (entities ▸ List.mem_singleton_self shown) key
  exact ⟨written, after, inserted, query, page, shown, field, gives, entities, present, back⟩

end Service

end Polystore.Store
