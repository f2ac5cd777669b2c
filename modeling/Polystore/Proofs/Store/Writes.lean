import Polystore.Proofs.Converter.Rows
import Polystore.Proofs.Store.Pages

/-!
What writes and removals give and leave, said once for each of them as the ways in which it can end. What a
write puts into its collection is worked out before the store is touched, and so is the predicate of a
removal; only then does the state of the store decide.
-/
namespace Polystore.Store

open Polystore.Action

@[simp] theorem rowsOf_put (store : Store) (collection other : String) (rows : List StoredRow) :
    (store.put collection rows).rowsOf other = if collection = other then rows else store.rowsOf other := by
  unfold rowsOf put
  rw [Named.find?_insert]
  split <;> rfl

@[simp] theorem put_put (store : Store) (collection : String) (rows more : List StoredRow) :
    (store.put collection rows).put collection more = store.put collection more := by
  simp [put, Named.insert_insert]

@[simp] theorem put_now (store : Store) (collection : String) (rows : List StoredRow) :
    (store.put collection rows).now = store.now := rfl

/-- Clears expired rows away from a collection, which is then there even if it is empty. -/
def purged (store : Store) (collection : String) : Store :=
  store.put collection (live (store.rowsOf collection) store.now)

namespace Service

/-- What a write puts into its collection. -/
structure Draft where
  key : Key
  body : Row

/-- What the write of an entity puts into its collection, for a store that has made so many keys. -/
def draft (service : Service) (mode : WriteMode) (entity : Entity) (madeKeys : Nat) : Except Failure Draft := do
  let _ ← requireCollection entity.collection
  let key ← service.keyOf mode entity madeKeys
  let body ← service.converter.written entity [service.settings.key, service.settings.revision]
  return ⟨key, body⟩

/-- A draft is a key and a row that the entity gives. -/
theorem of_draft_eq_ok {service : Service} {mode : WriteMode} {entity : Entity} {madeKeys : Nat} {draft : Draft}
    (drafted : service.draft mode entity madeKeys = .ok draft) :
    service.keyOf mode entity madeKeys = .ok draft.key ∧
      service.converter.written entity [service.settings.key, service.settings.revision] = .ok draft.body := by
  obtain ⟨_, _, keyed⟩ := Except.of_bind_eq_ok drafted
  obtain ⟨key, given, bodied⟩ := Except.of_bind_eq_ok keyed
  obtain ⟨body, written, whole⟩ := Except.of_bind_eq_ok bodied
  cases whole
  exact ⟨given, written⟩

/-- The failure of an operation on a closed store. -/
def closedRefusal (service : Service) (collection action : String) : Failure :=
  refusal collection action service.closedText

/-- The failure of an update that finds no row. -/
def absentRefusal (collection : String) (key : Key) : Failure :=
  refusal collection "updating" ("no entity has the key " ++ Text.quotedExcerpt key.text)

/-- An entity with the key and the revision that a write gave it. -/
def stamped (service : Service) (entity : Entity) (key : Key) (revision : Nat) : Entity :=
  entity.replaceAll [⟨service.settings.key, key.value⟩, ⟨service.settings.revision, revisionValue revision⟩]

/-- The live rows that a write finds in its collection. -/
def found (store : Store) (entity : Entity) : List StoredRow := live (store.rowsOf entity.collection) store.now

/-- The row that a write makes out of the row of its key, if there is one. An update needs one. -/
def entryIn (mode : WriteMode) (now : Nat) (draft : Draft) (rows : List StoredRow) : Option StoredRow :=
  match rows.find? (fun row => row.key = draft.key.text), mode with
  | some old, _ => some (renewed mode now draft.key.value draft.body old)
  | none, .insert lifetime => some ⟨draft.key.text, draft.key.value, draft.body, 1, lifetime.map (now + ·)⟩
  | none, .update => none

/-- A write makes a row with the key and the body of its draft, revised at least once. -/
theorem of_entryIn_eq_some {mode : WriteMode} {now : Nat} {draft : Draft} {rows : List StoredRow} {row : StoredRow}
    (made : entryIn mode now draft rows = some row) :
    row.key = draft.key.text ∧ row.keyValue = draft.key.value ∧ row.body = draft.body ∧ 1 ≤ row.revision := by
  unfold entryIn at made
  cases present : rows.find? fun row => row.key = draft.key.text with
  | some old =>
    have same : old.key = draft.key.text := by simpa using List.find?_some present
    rw [present] at made
    cases made
    exact ⟨same, rfl, rfl, Nat.le_add_left ..⟩
  | none =>
    rw [present] at made
    cases mode <;> cases made
    exact ⟨rfl, rfl, rfl, Nat.le_refl 1⟩

/-- A store after a write under a key. -/
def commit (store : Store) (collection : String) (key : Key) (rows : List StoredRow) : Store :=
  { store.put collection rows with madeKeys := store.madeKeys + if key.isMade then 1 else 0 }

/-- How a write can end: with what it gives, and with the store that it leaves. -/
inductive WriteEnd (service : Service) (mode : WriteMode) (entity : Entity) (store : Store) :
    Except Failure Entity × Store → Prop where
  /-- The entity cannot be written at all. -/
  | undrafted (failure : Failure) (undrafted : service.draft mode entity store.madeKeys = .error failure) :
    WriteEnd service mode entity store (.error failure, store)
  | closed (draft : Draft) (drafted : service.draft mode entity store.madeKeys = .ok draft)
    (isClosed : store.isClosed = true) :
    WriteEnd service mode entity store (.error (service.closedRefusal entity.collection "writing to"), store)
  /-- No live row has the key that an update needs. -/
  | absent (draft : Draft) (drafted : service.draft mode entity store.madeKeys = .ok draft)
    (isOpen : store.isClosed = false) (absent : entryIn mode store.now draft (found store entity) = none) :
    WriteEnd service mode entity store
      (.error (absentRefusal entity.collection draft.key), store.purged entity.collection)
  | written (draft : Draft) (drafted : service.draft mode entity store.madeKeys = .ok draft)
    (isOpen : store.isClosed = false) (row : StoredRow)
    (written : entryIn mode store.now draft (found store entity) = some row) :
    WriteEnd service mode entity store (.ok (service.stamped entity draft.key row.revision),
      commit store entity.collection draft.key (setRow row (found store entity)))

theorem effect_requireOpen (service : Service) (collection action : String) (store : Store) :
    effect (service.requireOpen collection action) store =
      (if store.isClosed then .error (service.closedRefusal collection action) else .ok (), store) := by
  simp only [requireOpen, effect_bind, effect_state]
  cases store.isClosed <;> simp [refuse, closedRefusal, effect_bind]

/-- Before it looks at the state of the store a write works out its draft. -/
theorem effect_write (service : Service) (mode : WriteMode) (entity : Entity) (store : Store) :
    effect (service.write mode entity) store =
      match service.draft mode entity store.madeKeys with
      | .error failure => (.error failure, store)
      | .ok draft =>
        if store.isClosed then (.error (service.closedRefusal entity.collection "writing to"), store)
        else ((effect (putRow entity.collection mode draft.key draft.body) store).1.map
          (service.stamped entity draft.key),
          (effect (putRow entity.collection mode draft.key draft.body) store).2) := by
  simp only [write, draft, effect_bind, effect_ofResult, effect_state, Converter.effect_rowExcluding]
  cases named : requireCollection entity.collection with
  | error failure => rfl
  | ok collection =>
    obtain ⟨_, rfl⟩ := requireCollection_eq_ok_iff.mp named
    simp only [Except.ok_bind]
    cases service.keyOf mode entity store.madeKeys with
    | error failure => rfl
    | ok key =>
      simp only [Except.ok_bind]
      cases service.converter.written entity [service.settings.key, service.settings.revision] with
      | error failure => rfl
      | ok body =>
        simp only [effect_requireOpen, Except.ok_bind, Except.pure_eq_ok]
        cases store.isClosed with
        | true => rfl
        | false =>
          simp only [Bool.false_eq_true, if_false, effect_log]
          cases effect (putRow entity.collection mode key body) store with
          | mk result after => cases result <;> simp [stamped, Except.map]

theorem write_end (service : Service) (mode : WriteMode) (entity : Entity) (store : Store) :
    WriteEnd service mode entity store (effect (service.write mode entity) store) := by
  rw [effect_write]
  cases drafted : service.draft mode entity store.madeKeys with
  | error failure => exact .undrafted failure drafted
  | ok draft =>
    cases closed : store.isClosed with
    | true => exact .closed draft drafted closed
    | false =>
      simp only [Bool.false_eq_true, if_false, putRow, effect_bind, effect_state, effect_modify]
      cases present : (live (store.rowsOf entity.collection) store.now).find? fun row =>
          row.key = draft.key.text with
      | some row =>
        have same : row.key = draft.key.text := by simpa using List.find?_some present
        have made : entryIn mode store.now draft (found store entity) =
            some (renewed mode store.now draft.key.value draft.body row) := by
          unfold entryIn found
          rw [present]
        have gives := WriteEnd.written draft drafted closed _ made
        rw [found, ← renewFirst_eq_setRow present same] at gives
        simp only [effect_bind, effect_modify, put_put]
        exact gives
      | none =>
        cases mode with
        | update =>
          have none : entryIn .update store.now draft (found store entity) = none := by
            unfold entryIn found
            rw [present]
          exact .absent draft drafted closed none
        | insert lifetime =>
          have made : entryIn (.insert lifetime) store.now draft (found store entity) =
              some ⟨draft.key.text, draft.key.value, draft.body, 1, lifetime.map (store.now + ·)⟩ := by
            unfold entryIn found
            rw [present]
          have gives := WriteEnd.written draft drafted closed _ made
          rw [found, setRow_of_missing present] at gives
          simp only [effect_bind, effect_modify, put_put]
          exact gives

/-- In an open store a write whose draft is worked out makes its row, or is an update that finds none. -/
theorem effect_write_of_draft {service : Service} {mode : WriteMode} {entity : Entity} {store : Store} {draft : Draft}
    (drafted : service.draft mode entity store.madeKeys = .ok draft) (isOpen : store.isClosed = false) :
    effect (service.write mode entity) store =
      match entryIn mode store.now draft (found store entity) with
      | some row => (.ok (service.stamped entity draft.key row.revision),
          commit store entity.collection draft.key (setRow row (found store entity)))
      | none => (.error (absentRefusal entity.collection draft.key), store.purged entity.collection) := by
  have ends := write_end service mode entity store
  generalize effect (service.write mode entity) store = ending at ends
  cases ends with
  | undrafted failure undrafted => cases drafted.symm.trans undrafted
  | closed other _ isClosed => cases isOpen.symm.trans isClosed
  | absent other drafted' _ absent =>
    cases drafted.symm.trans drafted'
    rw [absent]
  | written other drafted' _ row made =>
    cases drafted.symm.trans drafted'
    rw [made]

/-- The predicate of a removal that passes its checks. -/
def planned (service : Service) (query : DeleteQuery) : Except Failure (Option Predicate) := do
  let _ ← requireCollection query.collection
  let predicate ← service.predicateFor query.condition
  if predicate.isNone && service.settings.addressing = .keyed then
    .error (.ofFault (.unsupportedFeature driverName "deleting without a key condition"))
  else return predicate

/-- The rows that a removal leaves. -/
def remaining (service : Service) (query : DeleteQuery) (predicate : Option Predicate) (now : Nat)
    (rows : List StoredRow) : List StoredRow :=
  let places := (service.selected rows predicate now).map Prod.snd
  if query.projection.isEmpty then without places now rows else stripAt places query.projection rows

/-- How a removal can end: with what it gives, and with the store that it leaves. -/
inductive DeleteEnd (service : Service) (query : DeleteQuery) (store : Store) :
    Except Failure Nat × Store → Prop where
  /-- The query does not pass its checks. -/
  | unplanned (failure : Failure) (unplanned : service.planned query = .error failure) :
    DeleteEnd service query store (.error failure, store)
  | closed (predicate : Option Predicate) (planned : service.planned query = .ok predicate)
    (isClosed : store.isClosed = true) :
    DeleteEnd service query store (.error (service.closedRefusal query.collection "deleting from"), store)
  /-- Nothing was ever written to the collection. -/
  | unknown (predicate : Option Predicate) (planned : service.planned query = .ok predicate)
    (isOpen : store.isClosed = false)
    (unknown : Named.find? store.collections query.collection = none) :
    DeleteEnd service query store (.ok 0, store)
  | removed (predicate : Option Predicate) (planned : service.planned query = .ok predicate)
    (isOpen : store.isClosed = false) (rows : List StoredRow)
    (known : Named.find? store.collections query.collection = some rows) :
    DeleteEnd service query store (.ok (service.selected rows predicate store.now).length,
      store.put query.collection (service.remaining query predicate store.now rows))

theorem delete_end (service : Service) (query : DeleteQuery) (store : Store) :
    DeleteEnd service query store (effect (service.delete query) store) := by
  have builder : service.executor.session.builder = service.builder := rfl
  simp only [delete, effect_bind, Executor.effect_deletePredicate, builder]
  cases named : requireCollection query.collection with
  | error failure => exact .unplanned failure (by simp [planned, named])
  | ok collection =>
    simp only [Except.ok_bind]
    cases built : service.builder.predicateFor query.condition with
    | error failure => exact .unplanned failure (by simp [planned, predicateFor, named, built])
    | ok predicate =>
      simp only
      split
      · rename_i wholly
        exact .unplanned _ (by simp only [planned, predicateFor, named, built, Except.ok_bind, wholly, if_true])
      · rename_i addressed
        have plan : service.planned query = .ok predicate := by
          simp only [planned, predicateFor, named, built, Except.ok_bind, addressed]
          rfl
        simp only [effect_bind, effect_requireOpen]
        cases closed : store.isClosed with
        | true => exact .closed predicate plan closed
        | false =>
          simp only [Bool.false_eq_true, if_false, effect_state]
          cases known : Named.find? store.collections query.collection with
          | none => exact .unknown predicate plan closed known
          | some rows =>
            have gives := DeleteEnd.removed predicate plan closed rows known
            simpa [effect_bind, remaining] using gives

end Service

end Polystore.Store
