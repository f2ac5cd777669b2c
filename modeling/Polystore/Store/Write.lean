import Polystore.Store.Read

/-!
Writing to a store. An insert replaces the live row of its key or appends a new one, an update needs a live
row of its key; either raises the revision by one. A removal takes away whole rows, or fields of them.
-/
namespace Polystore.Store

/-- What a write does with the rows of its key. -/
inductive WriteMode where
  /-- Writes the row, with a lifetime in milliseconds or for good. -/
  | insert (lifetime : Option Nat)
  /-- Writes the row if there is one, which then expires as before. -/
  | update
deriving DecidableEq

def live (rows : List StoredRow) (now : Nat) : List StoredRow := rows.filter fun row => !row.isExpired now

/-- The same row, written once more. -/
def renewed (mode : WriteMode) (now : Nat) (keyValue : Value) (body : Row) (row : StoredRow) : StoredRow :=
  { row with
    keyValue := keyValue
    body := body
    revision := row.revision + 1
    expiry := match mode with
      | .insert lifetime => lifetime.map (now + ·)
      | .update => row.expiry }

/-- Writes the first row of a key, if there is one. -/
def renewFirst (key : String) (change : StoredRow → StoredRow) : List StoredRow → List StoredRow
  | [] => []
  | row :: rest => if row.key = key then change row :: rest else row :: renewFirst key change rest

namespace Service

/-- The key of an entity, as text and as value, and whether the store has made it. -/
structure Key where
  text : String
  value : Value
  isMade : Bool

/-- The field that holds the key. An update must have one, an insert may leave it out or null. -/
def keyField? (service : Service) (mode : WriteMode) (entity : Entity) : Except Failure (Option Field) :=
  match mode with
  | .update => (entity.requireIdentity service.settings.key).map some
  | .insert _ => .ok ((entity.find? service.settings.key).filter fun field => !field.value.isNull)

/-- The key of an entity; without one the store makes one. -/
def keyOf (service : Service) (mode : WriteMode) (entity : Entity) (madeKeys : Nat) : Except Failure Key := do
  match ← service.keyField? mode entity with
  | none => return ⟨service.nextKey madeKeys, .text (service.nextKey madeKeys), true⟩
  | some field =>
    match field.value.toText? with
    | some text => return ⟨text, field.value, false⟩
    | none =>
      .error (.ofFault (.conversion field.value.kind
        ("the key field `" ++ service.settings.key ++ "` must be a scalar")))

/-- Puts a row under a key into its collection and gives its revision. -/
def putRow (collection : String) (mode : WriteMode) (key : Key) (body : Row) : Action Failure Store Nat := do
  let store ← Action.state
  let rows := live (store.rowsOf collection) store.now
  Action.modify fun store => store.put collection rows
  let made := store.madeKeys + if key.isMade then 1 else 0
  match rows.find? (fun row => row.key = key.text), mode with
  | some row, _ =>
    let change := renewed mode store.now key.value body
    Action.modify fun store => { store.put collection (renewFirst key.text change rows) with madeKeys := made }
    return row.revision + 1
  | none, .update =>
    refuse collection "updating" ("no entity has the key " ++ Text.quotedExcerpt key.text)
  | none, .insert lifetime =>
    let row : StoredRow := ⟨key.text, key.value, body, 1, lifetime.map (store.now + ·)⟩
    Action.modify fun store => { store.put collection (rows ++ [row]) with madeKeys := made }
    return 1

/-- Writes an entity and gives it back with its key and its revision. -/
def write (service : Service) (mode : WriteMode) (entity : Entity) : Action Failure Store Entity := do
  let settings := service.settings
  let collection ← Action.ofResult (requireCollection entity.collection)
  let key ← Action.ofResult (service.keyOf mode entity (← Action.state).madeKeys)
  let body ← service.converter.rowExcluding entity [settings.key, settings.revision]
  service.requireOpen collection "writing to"
  let revision ← putRow collection mode key body
  Action.log .trace .storeConnection
    ("Wrote `" ++ key.text ++ "` revision " ++ toString revision ++ " into `" ++ collection ++ "`")
  return entity.replaceAll [⟨settings.key, key.value⟩, ⟨settings.revision, revisionValue revision⟩]

/-- The rows that are left when those at some places are removed; expired ones go with them. -/
def without (places : List Nat) (now : Nat) (rows : List StoredRow) : List StoredRow :=
  (rows.zipIdx.filter fun entry => !places.contains entry.2 && !entry.1.isExpired now).map Prod.fst

def strip (names : List String) (row : StoredRow) : StoredRow :=
  { row with body := names.foldl Named.erase row.body, revision := row.revision + 1 }

theorem strip_eq (names : List String) (row : StoredRow) :
    strip names row =
      { row with body := row.body.filter fun field => field.name ∉ names, revision := row.revision + 1 } := by
  rw [strip, Named.foldl_erase]

/-- The rows with some fields removed from those at some places. -/
def stripAt (places : List Nat) (names : List String) (rows : List StoredRow) : List StoredRow :=
  rows.zipIdx.map fun entry => if places.contains entry.2 then strip names entry.1 else entry.1

/-- Removes what a query selects, or fields of it, and gives the number of rows concerned. -/
def delete (service : Service) (query : DeleteQuery) : Action Failure Store Nat := do
  let predicate ← service.executor.deletePredicate query
  if predicate.isNone && service.settings.addressing = .keyed then
    Action.fail (.ofFault (.unsupportedFeature driverName "deleting without a key condition"))
  service.requireOpen query.collection "deleting from"
  let store ← Action.state
  match Named.find? store.collections query.collection with
  | none => return 0
  | some rows =>
    let places := (service.selected rows predicate store.now).map Prod.snd
    Action.modify fun store => store.put query.collection
      (if query.projection.isEmpty then without places store.now rows else stripAt places query.projection rows)
    Action.log .trace .storeConnection
      ("Deleted " ++ toString places.length ++ " entities from `" ++ query.collection ++ "`")
    return places.length

def closeSession : Action Failure Store Unit := Action.modify fun store => { store with isClosed := true }

def close (service : Service) : Action Failure Store Unit := do
  Action.log .debug .storeConnection ("Closing the memory store `" ++ service.settings.name ++ "`")
  closeSession

end Service

end Polystore.Store
