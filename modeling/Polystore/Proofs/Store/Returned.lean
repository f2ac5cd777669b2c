import Polystore.Proofs.Store.Elements

/-!
What a write gives back. The entity that was written keeps its own fields in their order, and behind them stand one
field of the key and one of the revision. A read shows the fields of the body in their order, and the same two behind
them. So as long as the row lives and no one touches it, reads show what the write has given.
-/
namespace Polystore.Store.Service

open Polystore.Action

/-- The key that an entity shows, as text. -/
def keyShown (service : Service) (entity : Entity) : Option String :=
  (entity.find? service.settings.key).bind fun field => field.value.toText?

theorem StandsFor.keyShown {service : Service} {store : Store}
    (apart : service.settings.key ≠ service.settings.revision) {query : Query} {entity : Entity} {row : StoredRow}
    (stands : service.StandsFor store query entity row) : service.keyShown entity = some row.key := by
  obtain ⟨shown, text⟩ := stands.key apart
  rw [Service.keyShown, shown]
  exact text

/-- A written entity is given back with its own fields, one field of the key and one of the revision. -/
theorem stamped_eq {service : Service} (apart : service.settings.key ≠ service.settings.revision) (entity : Entity)
    (key : Key) (revision : Nat) :
    service.stamped entity key revision = ⟨entity.collection, service.ownFields entity ++
      [⟨service.settings.key, key.value⟩, ⟨service.settings.revision, revisionValue revision⟩]⟩ := by
  have own : (entity.fields.filter fun field => field.name ≠ service.settings.key).filter
      (fun field => field.name ≠ service.settings.revision) = service.ownFields entity := by
    rw [ownFields, List.filter_filter]
    refine List.filter_congr fun field _ => ?_
    simp [Bool.and_comm]
  simp only [stamped, Entity.replaceAll, List.foldl_cons, List.foldl_nil, Entity.replace, Entity.remove, Entity.add,
    List.filter_append, own]
  simp [apart]

/-- A native value is read as a value, but for the hints of lists. -/
def ReadsAs (service : Service) (value : Value) (native : Native) : Prop :=
  (service.converter.read native).withoutHints = value.withoutHints

/-- A value comes back from the converter as it was. -/
def ComesBack (service : Service) (value : Value) : Prop :=
  ∃ native, service.converter.nativeOf value = .ok native ∧ service.ReadsAs value native

/-- The body that an entity is written as reads as its own fields. -/
theorem read_body {service : Service} {entity : Entity} {body : Row}
    (written : service.converter.written entity [service.settings.key, service.settings.revision] = .ok body)
    (distinct : Named.Distinct (service.ownFields entity))
    (back : ∀ field ∈ service.ownFields entity, service.ComesBack field.value) :
    Value.withoutHintsFields (body.map (Named.map service.converter.read)) =
      Value.withoutHintsFields (service.ownFields entity) := by
  obtain ⟨entries, given, read⟩ := Converter.nativeOfFields_of_each back
  have same : body = entries := by
    rw [written_ownFields given distinct] at written
    exact (Except.ok.inj written).symm
  subst same
  clear given written distinct back
  generalize service.ownFields entity = fields at read
  induction read with
  | nil => rfl
  | @cons field entry fields entries first others ih =>
    obtain ⟨name, value⟩ := field
    obtain ⟨other, native⟩ := entry
    obtain ⟨rfl, alike⟩ := first
    have here : (service.converter.read native).withoutHints = value.withoutHints := alike
    simp only [List.map_cons, Named.map, Value.withoutHintsFields, Value.withoutHintsField, here, ih]

/-- An entity that a read without projection gives of a row that a write has made is the one that the write has given,
but for the hints of lists. -/
theorem shown_eq_stamped {service : Service} (apart : service.settings.key ≠ service.settings.revision)
    {mode : WriteMode} {entity : Entity} {madeKeys : Nat} {draft : Draft}
    (drafted : service.draft mode entity madeKeys = .ok draft) (distinct : Named.Distinct (service.ownFields entity))
    (back : ∀ field ∈ service.ownFields entity, service.ComesBack field.value) {now : Nat} {rows : List StoredRow}
    {row : StoredRow} (made : entryIn mode now draft rows = some row) {query : Query}
    (here : query.collection = entity.collection) (whole : query.projection = []) :
    (service.shown query row).withoutHints = (service.stamped entity draft.key row.revision).withoutHints := by
  obtain ⟨_, keyValue, body, _⟩ := of_entryIn_eq_some made
  have fields := fields_shown apart whole (soundRow_of_entryIn drafted made)
  have read := read_body (of_draft_eq_ok drafted).2 distinct back
  have collection : (service.shown query row).collection = entity.collection := here
  rw [Value.withoutHintsFields_eq_map, Value.withoutHintsFields_eq_map] at read
  rw [stamped_eq apart, Entity.withoutHints, Entity.withoutHints, fields, collection, body, keyValue,
    Value.withoutHintsFields_eq_map, Value.withoutHintsFields_eq_map, List.map_append, List.map_append, read]

/-- A write that gives an entity has left its row under the key of the entity, if the row lives. -/
theorem rowOf?_of_written {store : Store} {entity : Entity} {draft : Draft} {row : StoredRow}
    (distinct : DistinctKeys (store.rowsOf entity.collection)) (sameKey : row.key = draft.key.text)
    (lives : ((commit store entity.collection draft.key (setRow row (found store entity))).revision?
      entity.collection draft.key.text).isSome) :
    (commit store entity.collection draft.key (setRow row (found store entity))).rowOf? entity.collection
      draft.key.text = some row := by
  rw [revision?, Option.isSome_map] at lives
  obtain ⟨there, present⟩ := Option.isSome_iff_exists.mp lives
  rw [rowOf?_commit distinct, if_pos ⟨rfl, sameKey⟩] at present ⊢
  rw [present, (Option.filter_eq_some_iff.mp present).1]

/-- What a write gives is what every read without projection shows of its row, as long as the row lives untouched. -/
theorem written_entity_is_shown (service : Service) (apart : service.settings.key ≠ service.settings.revision)
    (operations : List Operation) (start : Nat) {mode : WriteMode} {entity written : Entity} {after : Store}
    (gives : service.step (.write mode entity) (service.run operations { now := start }).state =
      (.ok (.entity written), after)) :
    let store := (service.run operations { now := start }).state
    let others := service.ownFields entity
    ∃ key revision, service.keyOf mode entity store.madeKeys = .ok key ∧
      written = ⟨entity.collection, others ++
        [⟨service.settings.key, key.value⟩, ⟨service.settings.revision, revisionValue revision⟩]⟩ ∧
      (Named.Distinct others → (∀ field ∈ others, service.ComesBack field.value) →
        ∀ later, service.LivesThrough entity.collection key.text later after →
          service.countTouches entity.collection key.text later after = 0 →
          let last := (service.run later after).state
          (∀ query cursor page, query.collection = entity.collection → query.projection = [] →
            (service.step (.select query cursor) last).1 = .ok (.page page) →
            ∀ shown ∈ page.entities, service.keyShown shown = some key.text →
              shown.withoutHints = written.withoutHints ∧ ∀ other, shown.same other = written.same other) ∧
          (last.isClosed = false → ∃ query page shown, query.collection = entity.collection ∧ query.projection = [] ∧
            (service.step (.select query .start) last).1 = .ok (.page page) ∧ page.entities = [shown] ∧
            shown.withoutHints = written.withoutHints)) := by
  intro store others
  have sound : Sound service.settings store := run_sound (.empty service.settings start) operations
  have ends := of_step_write_eq_ok gives
  have soundAfter : Sound service.settings after := ends.sound sound
  have visible := ends.accepted.2
  cases ends with
  | written draft drafted isOpen row made =>
    refine ⟨draft.key, row.revision, (of_draft_eq_ok drafted).1, stamped_eq apart entity draft.key row.revision, ?_⟩
    intro distinct back later through untouched last
    have lives := rowOf?_of_written (sound.rowsOf entity.collection).distinct (of_entryIn_eq_some made).1
      through.lives
    have stays : last.rowOf? entity.collection draft.key.text = some row :=
      (run_untouched soundAfter later through untouched).trans lives
    have soundLast : Sound service.settings last := run_sound soundAfter later
    have alike {query : Query} (here : query.collection = entity.collection) (whole : query.projection = []) :=
      shown_eq_stamped apart drafted distinct back made here whole
    constructor
    · intro query cursor page here whole selects shown member keyed
      -- The row that is shown has the key that was written, and there is but one live row of a key.
      obtain ⟨other, stands⟩ := of_mem_selected_page soundLast selects member
      have sameKey : other.key = draft.key.text := Option.some.inj ((stands.keyShown apart).symm.trans keyed)
      have present := rowOf?_of_mem (soundLast.rowsOf query.collection).distinct stands.lives
      rw [here, sameKey, stays] at present
      have same : shown.withoutHints = (service.stamped entity draft.key row.revision).withoutHints := by
        rw [stands.isShown, ← Option.some.inj present, alike here whole]
      exact ⟨same, Entity.same_of_withoutHints same⟩
    · intro lastOpen
      obtain ⟨query, page, here, whole, selects, entities⟩ :=
        service.exists_select_of_lives soundLast lastOpen visible (List.mem_of_find?_eq_some stays)
      exact ⟨query, page, service.shown query row, here, whole, selects, entities, alike here whole⟩

/-- An entity with a stale revision, a second key that is null and a list with a hint, shown one millisecond before its
row expires, after another row has been written. -/
theorem written_stale_entity_is_shown :
    let service : Service := { settings := {}, converter := {} }
    let own : List Field := [⟨"n", .list [.text "x"] (.text "y")⟩, ⟨"d", .documents [⟨"e", .text "z"⟩]⟩]
    let entity : Entity := ⟨"c", [⟨"_rev", .text "8"⟩, ⟨"_id", .text "a"⟩] ++ own ++ [⟨"_id", .null⟩]⟩
    let later : List Operation := [.write (.insert none) ⟨"c", [⟨"_id", .text "b"⟩]⟩, .elapse 4]
    let written : Entity := ⟨"c", own ++ [⟨"_id", .text "a"⟩, ⟨"_rev", revisionValue 1⟩]⟩
    ∃ after, service.step (.write (.insert (some 5)) entity) {} = (.ok (.entity written), after) ∧
      ∃ query page shown, (service.step (.select query .start) (service.run later after).state).1 = .ok (.page page) ∧
        page.entities = [shown] ∧ shown.withoutHints = written.withoutHints := by
  intro service own entity later written
  have gives : ∃ after, service.step (.write (.insert (some 5)) entity) {} = (.ok (.entity written), after) ∧
      service.LivesThrough "c" "a" later after ∧ service.countTouches "c" "a" later after = 0 ∧
      (service.run later after).state.isClosed = false := by
    simp only [service, own, entity, later, written]
    exact ⟨_, rfl, ⟨rfl, rfl, rfl⟩, rfl, rfl⟩
  obtain ⟨after, inserted, through, untouched, isOpen⟩ := gives
  obtain ⟨key, revision, keyed, _, shows⟩ := written_entity_is_shown service (by decide) [] 0 inserted
  have distinct : Named.Distinct (service.ownFields entity) := by
    simp [Named.Distinct, Named.names, ownFields, service, own, entity]
  have back : ∀ field ∈ service.ownFields entity, service.ComesBack field.value := by
    intro field member
    have two : field ∈ own := by simpa [ownFields, service, own, entity] using member
    rcases List.mem_pair.mp two with rfl | rfl
    · exact ⟨.list [.scalar (.text "x")], rfl, rfl⟩
    · exact ⟨.list [.map [⟨"e", .scalar (.text "z")⟩]], rfl, rfl⟩
  have given : service.keyOf (.insert (some 5)) entity 0 = .ok ⟨"a", .text "a", false⟩ := rfl
  obtain rfl := Except.ok.inj (given.symm.trans keyed)
  obtain ⟨query, page, shown, _, _, selects, entities, alike⟩ := (shows distinct back later through untouched).2 isOpen
  exact ⟨after, inserted, query, page, shown, selects, entities, alike⟩

end Polystore.Store.Service
