import Polystore.Proofs.Store.Soundness

/-!
A ledger is what clients take a store for: of every collection the live rows, told apart by their keys. Before
every operation it drops whatever has expired, from all collections. A store drops expired rows later, and only
where it writes, and yet no run of operations can tell the two apart.
-/
namespace Polystore.Store

open Polystore.Action

/-- Rows in order, told apart by their keys. -/
structure Table where
  rows : List StoredRow
  distinct : DistinctKeys rows

namespace Table

def empty : Table := ⟨[], List.nodup_nil⟩

/-- Drops the rows that have expired. -/
def expire (table : Table) (now : Nat) : Table :=
  ⟨live table.rows now, distinctKeys_live table.distinct now⟩

/-- Puts a row in the place of the one with its key, or at the end. -/
def set (table : Table) (row : StoredRow) : Table :=
  ⟨setRow row table.rows, distinctKeys_setRow table.distinct row⟩

/-- Removes the rows of some keys. -/
def remove (table : Table) (keys : List String) : Table where
  rows := table.rows.filter fun row => !keys.contains row.key
  distinct := table.distinct.sublist (List.filter_sublist.map _)

/-- A row without some of its fields, one revision higher. -/
def lacking (names : List String) (row : StoredRow) : StoredRow :=
  { row with body := row.body.filter fun field => field.name ∉ names, revision := row.revision + 1 }

/-- Removes fields from the rows of some keys. -/
def strip (table : Table) (keys names : List String) : Table where
  rows := table.rows.map fun row => if keys.contains row.key then lacking names row else row
  distinct := by
    have same : (table.rows.map fun row => if keys.contains row.key then lacking names row else row).map
        StoredRow.key = table.rows.map StoredRow.key := by
      rw [List.map_map]
      refine List.map_congr_left fun row _ => ?_
      simp only [Function.comp_apply]
      split <;> rfl
    rw [DistinctKeys, same]
    exact table.distinct

theorem rows_set (table : Table) (row : StoredRow) : (table.set row).rows = setRow row table.rows := rfl

theorem rows_remove (table : Table) (keys : List String) :
    (table.remove keys).rows = table.rows.filter fun row => !keys.contains row.key := rfl

theorem rows_strip (table : Table) (keys names : List String) :
    (table.strip keys names).rows =
      table.rows.map fun row => if keys.contains row.key then lacking names row else row := rfl

end Table

/-- The tables of all collections, and what else a ledger remembers. -/
structure Ledger where
  tables : String → Table := fun _ => .empty
  isClosed : Bool := false
  now : Nat := 0
  madeKeys : Nat := 0

namespace Ledger

/-- Drops what has expired from all tables. -/
def expire (ledger : Ledger) : Ledger :=
  { ledger with tables := fun collection => (ledger.tables collection).expire ledger.now }

/-- Replaces a table. -/
def put (ledger : Ledger) (collection : String) (table : Table) : Ledger :=
  { ledger with tables := fun other => if collection = other then table else ledger.tables other }

theorem tables_put (ledger : Ledger) (collection other : String) (table : Table) :
    (ledger.put collection table).tables other = if collection = other then table else ledger.tables other := rfl

/-- The row that a write makes over the one of its key, or where there is none. Only an insert makes a first row and
says when a row expires. -/
def entry (mode : WriteMode) (now : Nat) (draft : Service.Draft) (old : Option StoredRow) : Option StoredRow :=
  let row (revision : Nat) (expiry : Option Nat) : StoredRow :=
    ⟨draft.key.text, draft.key.value, draft.body, revision, expiry⟩
  match mode, old with
  | .insert lifetime, none => some (row 1 (lifetime.map (now + ·)))
  | .insert lifetime, some old => some (row (old.revision + 1) (lifetime.map (now + ·)))
  | .update, none => none
  | .update, some old => some (row (old.revision + 1) old.expiry)

/-- Writes an entity. A row with its key is replaced where it stands, and an insert appends a row if there is
none, which an update refuses to do. -/
def write (service : Service) (mode : WriteMode) (entity : Entity) (ledger : Ledger) :
    Except Failure Entity × Ledger :=
  match service.draft mode entity ledger.madeKeys with
  | .error failure => (.error failure, ledger)
  | .ok draft =>
    let table := ledger.tables entity.collection
    if ledger.isClosed then (.error (service.closedRefusal entity.collection "writing to"), ledger)
    else match entry mode ledger.now draft (table.rows.find? fun row => row.key = draft.key.text) with
      | none => (.error (Service.absentRefusal entity.collection draft.key), ledger)
      | some row => (.ok (service.stamped entity draft.key row.revision),
        { ledger.put entity.collection (table.set row) with
          madeKeys := ledger.madeKeys + if draft.key.isMade then 1 else 0 })

/-- Removes what a query picks, or fields of it, and gives the number of rows concerned. -/
def delete (service : Service) (query : DeleteQuery) (ledger : Ledger) : Except Failure Nat × Ledger :=
  match service.planned query with
  | .error failure => (.error failure, ledger)
  | .ok predicate =>
    let table := ledger.tables query.collection
    let keys := (service.picked predicate table.rows).map StoredRow.key
    if ledger.isClosed then (.error (service.closedRefusal query.collection "deleting from"), ledger)
    else (.ok keys.length, ledger.put query.collection
      (if query.projection.isEmpty then table.remove keys else table.strip keys query.projection))

/-- Performs an operation on a ledger without expired rows. -/
def perform (service : Service) : Operation → Ledger → Answer × Ledger
  | .write mode entity, ledger => replying .entity (ledger.write service mode entity)
  | .delete query, ledger => replying .count (ledger.delete service query)
  | .select query cursor, ledger =>
    replying .page (service.reads query cursor ledger.isClosed (ledger.tables query.collection).rows, ledger)
  | .close, ledger => (.ok .done, { ledger with isClosed := true })
  | .elapse milliseconds, ledger => (.ok .done, { ledger with now := ledger.now + milliseconds })

/-- One step of a run: first everything that has expired is dropped. -/
def step (service : Service) (operation : Operation) (ledger : Ledger) : Answer × Ledger :=
  perform service operation ledger.expire

/-- Performs operations one after another. -/
def run (service : Service) (operations : List Operation) (ledger : Ledger) : Run Ledger :=
  runSteps (step service) operations ledger

end Ledger

/-- A store makes the row that a ledger makes. -/
theorem Service.entryIn_eq_entry (mode : WriteMode) (now : Nat) (draft : Service.Draft) (rows : List StoredRow) :
    Service.entryIn mode now draft rows =
      Ledger.entry mode now draft (rows.find? fun row => row.key = draft.key.text) := by
  unfold Service.entryIn
  cases present : rows.find? fun row => row.key = draft.key.text with
  | none => cases mode <;> rfl
  | some old =>
    have same : old.key = draft.key.text := by simpa using List.find?_some present
    cases mode <;> simp only [renewed, same, Ledger.entry]

/-- A store agrees with a ledger that has the same live rows in all collections. -/
structure Agrees (store : Store) (ledger : Ledger) : Prop where
  live : ∀ collection,
    live (ledger.tables collection).rows store.now = live (store.rowsOf collection) store.now
  isClosed : ledger.isClosed = store.isClosed
  now : ledger.now = store.now
  madeKeys : ledger.madeKeys = store.madeKeys

/-- What a removal leaves of the live rows. -/
private theorem live_remaining (service : Service) (query : DeleteQuery) (predicate : Option Predicate)
    {rows : List StoredRow} (distinct : DistinctKeys rows) {now : Nat} {table : Table}
    (same : table.rows = live rows now) :
    let keys := (service.picked predicate (live rows now)).map StoredRow.key
    live (if query.projection.isEmpty then table.remove keys else table.strip keys query.projection).rows now =
      live (service.remaining query predicate now rows) now := by
  intro keys
  unfold Service.remaining
  split
  · rw [Table.rows_remove, same, service.without_selected distinct]
  · have expiry (row : StoredRow) :
        (if keys.contains row.key then Service.strip query.projection row else row).expiry = row.expiry := by
      split <;> rfl
    have lacking : Service.strip query.projection = Table.lacking query.projection :=
      funext (Service.strip_eq query.projection)
    rw [Table.rows_strip, ← lacking, same, service.stripAt_selected distinct, live_map expiry, live_map expiry, live_live_now]

namespace Agrees

variable {store : Store} {ledger : Ledger}

theorem empty (start : Nat) : Agrees { now := start } { now := start } := ⟨fun _ => rfl, rfl, rfl, rfl⟩

theorem rows (agrees : Agrees store ledger) (collection : String) :
    (ledger.expire.tables collection).rows = Store.live (store.rowsOf collection) store.now := by
  rw [← agrees.live, ← agrees.now]
  rfl

/-- Dropping expired rows makes no difference. -/
theorem expire (agrees : Agrees store ledger) : Agrees store ledger.expire where
  live collection := by rw [agrees.rows, live_live_now]
  isClosed := agrees.isClosed
  now := agrees.now
  madeKeys := agrees.madeKeys

theorem replace (agrees : Agrees store ledger) {collection : String} {table : Table}
    (same : Store.live table.rows store.now = Store.live (store.rowsOf collection) store.now) :
    Agrees store (ledger.put collection table) where
  live other := by
    rw [Ledger.tables_put]
    split
    · rename_i here
      rw [same, here]
    · exact agrees.live other
  isClosed := agrees.isClosed
  now := agrees.now
  madeKeys := agrees.madeKeys

theorem put (agrees : Agrees store ledger) {collection : String} {rows : List StoredRow} {table : Table}
    (same : Store.live table.rows store.now = Store.live rows store.now) :
    Agrees (store.put collection rows) (ledger.put collection table) where
  live other := by
    rw [rowsOf_put, Ledger.tables_put, put_now]
    split
    · exact same
    · exact agrees.live other
  isClosed := agrees.isClosed
  now := agrees.now
  madeKeys := agrees.madeKeys

/-- A store that clears expired rows away agrees with the same ledger. -/
theorem purge (agrees : Agrees store ledger) (collection : String) :
    Agrees (store.purged collection) ledger where
  live other := by
    rw [purged, rowsOf_put, put_now]
    split
    · rename_i same
      rw [live_live_now, same, agrees.live]
    · exact agrees.live other
  isClosed := agrees.isClosed
  now := agrees.now
  madeKeys := agrees.madeKeys

theorem elapse (agrees : Agrees store ledger) (milliseconds : Nat) :
    Agrees (store.elapse milliseconds) { ledger with now := ledger.now + milliseconds } where
  live collection := by
    have later : store.now ≤ (store.elapse milliseconds).now := Nat.le_add_right ..
    rw [← live_live later, agrees.live, live_live later]
    rfl
  isClosed := agrees.isClosed
  now := congrArg (· + milliseconds) agrees.now
  madeKeys := agrees.madeKeys

theorem close (agrees : Agrees store ledger) :
    Agrees { store with isClosed := true } { ledger with isClosed := true } where
  live := agrees.live
  isClosed := rfl
  now := agrees.now
  madeKeys := agrees.madeKeys

/-- A write gives the same whether or not expired rows were dropped everywhere before it. -/
theorem write {service : Service} {mode : WriteMode} {entity : Entity} {ending : Except Failure Entity × Store}
    (agrees : Agrees store ledger) (ends : Service.WriteEnd service mode entity store ending) :
    ending.1 = (ledger.expire.write service mode entity).1 ∧
      Agrees ending.2 (ledger.expire.write service mode entity).2 := by
  have rows : (ledger.expire.tables entity.collection).rows = Service.found store entity :=
    agrees.rows entity.collection
  have madeKeys : ledger.expire.madeKeys = store.madeKeys := agrees.madeKeys
  have isClosed : ledger.expire.isClosed = store.isClosed := agrees.isClosed
  have now : ledger.expire.now = store.now := agrees.now
  simp only [Ledger.write, madeKeys, isClosed, now, rows, ← Service.entryIn_eq_entry]
  cases ends with
  | undrafted failure undrafted =>
    simp only [undrafted]
    exact ⟨trivial, agrees.expire⟩
  | closed draft drafted isClosed =>
    simp only [drafted, isClosed, if_true]
    exact ⟨trivial, agrees.expire⟩
  | absent draft drafted isOpen absent =>
    simp only [drafted, isOpen, Bool.false_eq_true, if_false, absent]
    exact ⟨trivial, agrees.expire.purge entity.collection⟩
  | written draft drafted isOpen row written =>
    simp only [drafted, isOpen, Bool.false_eq_true, if_false, written]
    have after : Agrees (store.put entity.collection (setRow row (Service.found store entity)))
        (ledger.expire.put entity.collection ((ledger.expire.tables entity.collection).set row)) :=
      agrees.expire.put (by rw [Table.rows_set, rows])
    exact ⟨trivial, after.live, after.isClosed, after.now, rfl⟩

/-- A removal concerns live rows only, whether or not the expired ones are there. -/
theorem delete {service : Service} {query : DeleteQuery} {ending : Except Failure Nat × Store}
    (sound : Sound service.settings store) (agrees : Agrees store ledger)
    (ends : Service.DeleteEnd service query store ending) :
    ending.1 = (ledger.expire.delete service query).1 ∧
      Agrees ending.2 (ledger.expire.delete service query).2 := by
  have rows : (ledger.expire.tables query.collection).rows =
    Store.live (store.rowsOf query.collection) store.now := agrees.rows query.collection
  have isClosed : ledger.expire.isClosed = store.isClosed := agrees.isClosed
  simp only [Ledger.delete, isClosed, rows]
  cases ends with
  | unplanned failure unplanned =>
    simp only [unplanned]
    exact ⟨trivial, agrees.expire⟩
  | closed predicate planned isClosed =>
    simp only [planned, isClosed, if_true]
    exact ⟨trivial, agrees.expire⟩
  | unknown predicate planned isOpen unknown =>
    have none : store.rowsOf query.collection = [] := by rw [rowsOf, unknown]; rfl
    have nothing : service.remaining query predicate store.now (store.rowsOf query.collection) =
        store.rowsOf query.collection := by
      rw [none]
      unfold Service.remaining
      split <;> rfl
    have left := live_remaining service query predicate (sound.rowsOf query.collection).distinct rows
    rw [nothing] at left
    simp only [planned, isOpen, Bool.false_eq_true, if_false]
    refine ⟨?_, agrees.expire.replace left⟩
    rw [none, live_nil, Service.picked_nil]
    rfl
  | removed predicate planned isOpen rows' known =>
    have all : store.rowsOf query.collection = rows' := by rw [rowsOf, known]; rfl
    have distinct : DistinctKeys rows' := all ▸ (sound.rowsOf query.collection).distinct
    rw [all] at rows
    simp only [planned, isOpen, Bool.false_eq_true, if_false, all]
    refine ⟨?_, agrees.expire.put (live_remaining service query predicate distinct rows)⟩
    rw [← service.selected_rows distinct, List.length_map, List.length_map]

end Agrees

namespace Service

/-- What one operation does to a store it does to every ledger that agrees with the store. -/
theorem step_agrees {service : Service} {store : Store} {ledger : Ledger} (sound : Sound service.settings store)
    (agrees : Agrees store ledger) (operation : Operation) :
    (service.step operation store).1 = (ledger.step service operation).1 ∧
      Agrees (service.step operation store).2 (ledger.step service operation).2 := by
  cases operation with
  | write mode entity =>
    obtain ⟨same, after⟩ := agrees.write (write_end service mode entity store)
    rw [step_write]
    exact ⟨congrArg (Except.map Reply.entity) same, after⟩
  | delete query =>
    obtain ⟨same, after⟩ := agrees.delete sound (delete_end service query store)
    rw [step_delete]
    exact ⟨congrArg (Except.map Reply.count) same, after⟩
  | select query cursor =>
    rw [step_select service query cursor (sound.rowsOf query.collection).distinct, ← agrees.rows,
      ← agrees.isClosed]
    exact ⟨rfl, agrees.expire⟩
  | close => exact ⟨rfl, agrees.expire.close⟩
  | elapse milliseconds => exact ⟨rfl, agrees.expire.elapse milliseconds⟩

/-- A store and a ledger that agree answer every run alike. -/
theorem run_agrees {service : Service} {store : Store} {ledger : Ledger} (sound : Sound service.settings store)
    (agrees : Agrees store ledger) (operations : List Operation) :
    (service.run operations store).answers = (ledger.run service operations).answers ∧
      Agrees (service.run operations store).state (ledger.run service operations).state := by
  obtain ⟨same, _, after⟩ := runSteps_simulates
    (fun store ledger => Sound service.settings store ∧ Agrees store ledger)
    (fun operation store ledger related =>
      have one := step_agrees related.1 related.2 operation
      ⟨one.1, step_sound related.1 operation, one.2⟩)
    operations ⟨sound, agrees⟩
  exact ⟨same, after⟩

/-- That a store keeps expired rows for a while cannot be observed: from the start on it gives the answers of a
ledger that drops them before every operation. -/
theorem run_answers_as_ledger (service : Service) (operations : List Operation) (start : Nat) :
    (service.run operations { now := start }).answers =
      (({ now := start } : Ledger).run service operations).answers :=
  (run_agrees (.empty service.settings start) (.empty start) operations).1

end Service

end Polystore.Store
