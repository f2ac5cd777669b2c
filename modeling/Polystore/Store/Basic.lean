import Polystore.Native
import Polystore.Store.Predicate

/-!
What a store in memory holds: the rows of its collections, each with a key, a revision and perhaps a time at
which it expires. Expired rows stay until a write or a removal clears them away, and no one sees them.
-/
namespace Polystore

/-- One stored entity. -/
structure StoredRow where
  /-- The key as text, which tells the rows of a collection apart. -/
  key : String
  /-- The key as it was given. -/
  keyValue : Value
  body : Row
  revision : Nat
  /-- When the row expires, in milliseconds. -/
  expiry : Option Nat

def StoredRow.isExpired (row : StoredRow) (now : Nat) : Bool := row.expiry.any (· ≤ now)

/-- The rows of all collections, and what else a store remembers. -/
structure Store where
  collections : List (Named (List StoredRow)) := []
  isClosed : Bool := false
  /-- The time, in milliseconds. -/
  now : Nat := 0
  /-- How many keys the store has made. -/
  madeKeys : Nat := 0

namespace Store

/-- The rows of a collection, expired ones included. -/
def rowsOf (store : Store) (collection : String) : List StoredRow :=
  (Named.find? store.collections collection).getD []

def put (store : Store) (collection : String) (rows : List StoredRow) : Store :=
  { store with collections := Named.insert store.collections collection rows }

def elapse (store : Store) (milliseconds : Nat) : Store := { store with now := store.now + milliseconds }

/-- What serves a store: its settings, the converter of its rows, and where its keys come from. -/
structure Service where
  settings : Settings
  converter : Converter
  /-- The identifiers that become keys, one after another. -/
  supply : Nat → Uuid := Uuid.numbered

namespace Service

/-- The key that a store makes when it has made so many. -/
def nextKey (service : Service) (madeKeys : Nat) : String := (service.supply (madeKeys + 1)).text

def revisionValue (revision : Nat) : Value := .word (Word.clamp .u64 revision)

/-- A row as it is read: the body, the key and the revision. -/
def view (service : Service) (row : StoredRow) : Row :=
  Named.insert (Named.insert row.body service.settings.key (.scalar row.keyValue))
    service.settings.revision (.scalar (revisionValue row.revision))

def builder (service : Service) : PredicateBuilder Predicate :=
  Predicate.builder service.settings service.converter

/-- The live rows that a predicate selects, with their places. Filters select in the order of the store, key
lookups in the order of the keys. -/
def selected (service : Service) (rows : List StoredRow) (predicate : Option Predicate) (now : Nat) :
    List (StoredRow × Nat) :=
  let isLive (entry : StoredRow × Nat) : Bool := !entry.1.isExpired now
  match predicate with
  | none => rows.zipIdx.filter isLive
  | some (.filter filter) => (rows.zipIdx.filter isLive).filter fun entry => filter.holds (service.view entry.1)
  | some (.keys lookup) =>
    (lookup.keys.eraseDups.filterMap fun key => rows.zipIdx.find? fun entry => entry.1.key = key).filter isLive

def closedText (service : Service) : String := "The memory store `" ++ service.settings.name ++ "` is closed"

def refusal (collection action detail : String) : Failure :=
  (Failure.ofFault (.execution driverName detail)).during ("While " ++ action ++ " `" ++ collection ++ "`")

/-- Fails with a failure of the store itself, and leaves it in the log. -/
def refuse {α : Type} (collection action detail : String) : Action Failure Store α := do
  let failure := refusal collection action detail
  Action.log .error .storeConnection failure.text
  Action.fail failure

def requireOpen (service : Service) (collection action : String) : Action Failure Store Unit := do
  if (← Action.state).isClosed then refuse collection action service.closedText

end Service

end Store

end Polystore
