import Polystore.Proofs.Converter.RoundTrip
import Polystore.Proofs.Store.Soundness

/-!
Rows as reads show them. Whatever a query asks for, an entity that a read gives stands for one live row of the
collection, and shows the key of that row and its revision.
-/
namespace Polystore

/-- Reading a row as an entity reads each of its fields and keeps its name. -/
theorem Converter.find?_entityOf (converter : Converter) (row : Row) (collection name : String) :
    (converter.entityOf row collection).find? name =
      (Named.find? row name).map fun native => ⟨name, converter.read native⟩ := by
  unfold entityOf Entity.find?
  induction row with
  | nil => rfl
  | cons item rest ih =>
    obtain ⟨other, native⟩ := item
    rw [Named.find?_cons]
    by_cases here : other = name
    · subst here
      simp [fieldsOf, fieldOf, read]
    · have next : ((fieldOf converter.settings.layout ⟨other, native⟩).name = name) = False := by
        simpa [fieldOf] using here
      rw [if_neg here, ← ih]
      simp [fieldsOf, next]

namespace Store.Service

/-- A row as a query reads it. -/
def shown (service : Service) (query : Query) (row : StoredRow) : Entity :=
  service.converter.entityOf (service.project query.projection (service.view row)) query.collection

private theorem find?_project (service : Service) (names : List String) (row : Row) {name : String}
    (kept : names = [] ∨ name ∈ service.settings.key :: service.settings.revision :: names) :
    Named.find? (service.project names row) name = Named.find? row name := by
  rw [project_eq_filter, Named.find?, List.find?_filter]
  congr 2
  funext field
  by_cases here : field.name = name
  · simpa [here] using kept
  · simp [here]

theorem find?_shown_revision (service : Service) (query : Query) (row : StoredRow) :
    (service.shown query row).find? service.settings.revision =
      some ⟨service.settings.revision, revisionValue row.revision⟩ := by
  rw [shown, Converter.find?_entityOf, find?_project service _ _ (Or.inr (by simp)), view, Named.find?_insert,
    if_pos rfl]
  rfl

theorem find?_shown_key (service : Service) (apart : service.settings.key ≠ service.settings.revision)
    (query : Query) (row : StoredRow) :
    (service.shown query row).find? service.settings.key = some ⟨service.settings.key, row.keyValue⟩ := by
  rw [shown, Converter.find?_entityOf, find?_project service _ _ (Or.inr (by simp)), view, Named.find?_insert,
    if_neg apart.symm, Named.find?_insert, if_pos rfl]
  rfl

/-- A query that asks for a field, or for all, shows it as the body of the row has it. -/
theorem find?_shown_field (service : Service) {query : Query} {name : String}
    (asked : query.projection = [] ∨ name ∈ query.projection) (noKey : name ≠ service.settings.key)
    (noRevision : name ≠ service.settings.revision) (row : StoredRow) :
    (service.shown query row).find? name =
      (Named.find? row.body name).map fun native => ⟨name, service.converter.read native⟩ := by
  have kept := asked.imp_right fun named =>
    List.mem_cons_of_mem service.settings.key (List.mem_cons_of_mem service.settings.revision named)
  rw [shown, Converter.find?_entityOf, find?_project service _ _ kept, view, Named.find?_insert,
    if_neg noRevision.symm, Named.find?_insert, if_neg noKey.symm]

/-- A query without projection shows the fields of the body in their order, the key and the revision behind them. -/
theorem fields_shown {service : Service} (apart : service.settings.key ≠ service.settings.revision) {query : Query}
    (whole : query.projection = []) {row : StoredRow} (sound : SoundRow service.settings row) :
    (service.shown query row).fields = row.body.map (Named.map service.converter.read) ++
      [⟨service.settings.key, row.keyValue⟩, ⟨service.settings.revision, revisionValue row.revision⟩] := by
  have all : service.project query.projection (service.view row) = service.view row := by simp [project_eq_filter, whole]
  have fields : (service.shown query row).fields = (service.view row).map (Named.map service.converter.read) := by
    rw [shown, all, Converter.entityOf, Converter.fieldsOf_eq_map]
    rfl
  rw [fields, view_eq_append sound apart, List.map_append]
  rfl

/-- The fields of an entity that are neither the key nor the revision. -/
def ownFields (service : Service) (entity : Entity) : List Field :=
  entity.fields.filter fun field => !([service.settings.key, service.settings.revision].contains field.name)

/-- Without a name twice, the body of an entity is made of the native forms of its own fields. -/
theorem written_ownFields {service : Service} {entity : Entity} {body : Row}
    (written : service.converter.nativeOfFields (service.ownFields entity) = .ok body)
    (distinct : Named.Distinct (service.ownFields entity)) :
    service.converter.written entity [service.settings.key, service.settings.revision] = .ok body :=
  Converter.written_of_distinct written distinct

theorem ownFields_shown {service : Service} (apart : service.settings.key ≠ service.settings.revision) {query : Query}
    (whole : query.projection = []) {row : StoredRow} (sound : SoundRow service.settings row) :
    service.ownFields (service.shown query row) = row.body.map (Named.map service.converter.read) := by
  have kept : (row.body.map (Named.map service.converter.read)).filter
      (fun field => !([service.settings.key, service.settings.revision].contains field.name)) =
      row.body.map (Named.map service.converter.read) := by
    refine List.filter_eq_self.mpr fun field member => ?_
    obtain ⟨entry, present, rfl⟩ := List.mem_map.mp member
    have named : entry.name ∈ Named.names row.body := List.mem_map_of_mem present
    have noKey : entry.name ≠ service.settings.key := fun same => sound.keyless (same ▸ named)
    have noRevision : entry.name ≠ service.settings.revision := fun same => sound.revisionless (same ▸ named)
    simp [Named.map, noKey, noRevision]
  rw [ownFields, fields_shown apart whole sound, List.filter_append, kept]
  simp

/-- A query shows the sorted rows, cut. -/
theorem reading_eq (service : Service) (query : Query) (predicate : Option Predicate) (rows : List StoredRow) :
    service.reading query predicate rows =
      (((sorted (fun a b => compareRows query.sorts (service.view a) (service.view b))
          (service.picked predicate rows)).drop (query.skip.getD 0)).take
        (min (query.limit.getD wordMax) wordMax)).map (service.shown query) := by
  rw [reading, arrange, Query.statement]
  simp only [sorted_map, ← List.map_drop, ← List.map_take, List.map_map]
  rfl

/-- What a query reads among live rows are some of those that its predicate picks. -/
theorem of_mem_reading {service : Service} {query : Query} {predicate : Option Predicate}
    {rows : List StoredRow} {entity : Entity} (member : entity ∈ service.reading query predicate rows) :
    ∃ row ∈ rows, entity = service.shown query row := by
  rw [reading_eq] at member
  obtain ⟨row, taken, rfl⟩ := List.mem_map.mp member
  have picked := (sorted_perm _ _).subset (List.mem_of_mem_drop (List.mem_of_mem_take taken))
  exact ⟨row, mem_of_mem_picked picked, rfl⟩

/-- Without sorts, a query reads the rows that its predicate picks in their order. -/
theorem reading_of_unsorted (service : Service) {query : Query} (unsorted : query.sorts = [])
    (predicate : Option Predicate) (rows : List StoredRow) :
    service.reading query predicate rows =
      (((service.picked predicate rows).drop (query.skip.getD 0)).take
        (min (query.limit.getD wordMax) wordMax)).map (service.shown query) := by
  have inOrder : sorted (fun a b => compareRows query.sorts (service.view a) (service.view b))
      (service.picked predicate rows) = service.picked predicate rows := by
    refine sorted_eq_self fun a _ b _ => ?_
    rw [unsorted]
    simp [compareRows]
  rw [reading_eq, inOrder]

theorem of_mem_piece {service : Service} {query : Query} {all : List Entity} {offset : Nat} {entity : Entity}
    (member : entity ∈ (service.piece query all offset).entities) : entity ∈ all := by
  unfold piece at member
  split at member
  · exact List.mem_of_mem_take (List.mem_of_mem_drop member)
  · exact List.mem_of_mem_drop member

/-- An entity stands for a live row: it is what the query reads of the row, with its revision and its key. -/
structure StandsFor (service : Service) (store : Store) (query : Query) (entity : Entity) (row : StoredRow) :
    Prop where
  lives : row ∈ live (store.rowsOf query.collection) store.now
  isShown : entity = service.shown query row
  revision : entity.find? service.settings.revision =
    some ⟨service.settings.revision, revisionValue row.revision⟩
  key : service.settings.key ≠ service.settings.revision →
    entity.find? service.settings.key = some ⟨service.settings.key, row.keyValue⟩ ∧
      row.keyValue.toText? = some row.key

theorem standsFor_shown {service : Service} {store : Store} (sound : Sound service.settings store) (query : Query)
    {row : StoredRow} (lives : row ∈ live (store.rowsOf query.collection) store.now) :
    service.StandsFor store query (service.shown query row) row where
  lives := lives
  isShown := rfl
  revision := service.find?_shown_revision query row
  key apart := ⟨service.find?_shown_key apart query row,
    ((sound.rowsOf query.collection).rows row (mem_live.mp lives).1).keyText⟩

/-- A select that gives an entity has read a list of an open store, for a query that has passed its checks. -/
theorem of_selected_page {service : Service} {store : Store} {query : Query} {cursor : Cursor} {page : Page}
    (distinct : DistinctKeys (store.rowsOf query.collection))
    (gives : (service.step (.select query cursor) store).1 = .ok (.page page)) {entity : Entity}
    (member : entity ∈ page.entities) :
    store.isClosed = false ∧ Text.isAllBlank query.collection = false ∧
      ∃ predicate, service.predicateFor query.condition = .ok predicate ∧
        entity ∈ service.reading query predicate (live (store.rowsOf query.collection) store.now) := by
  rw [step_select service query cursor distinct] at gives
  obtain ⟨given, read, same⟩ := Except.of_map_eq_ok gives
  cases same
  unfold reads at read
  split at read
  · cases read
    cases member
  · obtain ⟨_, required, read⟩ := Except.of_bind_eq_ok read
    obtain ⟨predicate, accepted, read⟩ := Except.of_bind_eq_ok read
    obtain ⟨offset, start, read⟩ := Except.of_bind_eq_ok read
    cases read
    exact ⟨(located_eq_ok_iff.mp start).1, (requireCollection_eq_ok_iff.mp required).1, predicate, accepted,
      of_mem_piece member⟩

/-- An entity that a select gives stands for a live row of its collection. -/
theorem of_mem_selected_page {service : Service} {store : Store} (sound : Sound service.settings store)
    {query : Query} {cursor : Cursor} {page : Page}
    (gives : (service.step (.select query cursor) store).1 = .ok (.page page)) {entity : Entity}
    (member : entity ∈ page.entities) : ∃ row, service.StandsFor store query entity row := by
  obtain ⟨_, _, predicate, _, read⟩ := of_selected_page (sound.rowsOf query.collection).distinct gives member
  obtain ⟨row, lives, rfl⟩ := of_mem_reading read
  exact ⟨row, standsFor_shown sound query lives⟩

end Store.Service

end Polystore
