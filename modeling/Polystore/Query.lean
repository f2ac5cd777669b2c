import Polystore.Condition
import Polystore.Entity

/-!
Requests to read and to remove entities. A query says what to read and in which order; the position inside
the result is no part of it.
-/
namespace Polystore

/-- The direction of a sort. -/
inductive Direction where
  | ascending | descending
deriving DecidableEq, Repr

def Direction.label : Direction → String
  | .ascending => "Asc"
  | .descending => "Desc"

/-- Orders rows by a field. -/
structure SortKey where
  name : String
  direction : Direction
deriving DecidableEq, Repr

/-- How many replicas a back end asks, for those that have replicas. -/
inductive Consistency where
  | any | one | two | three | quorum | all | localQuorum | eachQuorum | serial | localSerial | localOne
deriving DecidableEq, Repr

namespace Consistency

def values : List Consistency :=
  [.any, .one, .two, .three, .quorum, .all, .localQuorum, .eachQuorum, .serial, .localSerial, .localOne]

def text : Consistency → String
  | .any => "ANY"
  | .one => "ONE"
  | .two => "TWO"
  | .three => "THREE"
  | .quorum => "QUORUM"
  | .all => "ALL"
  | .localQuorum => "LOCAL_QUORUM"
  | .eachQuorum => "EACH_QUORUM"
  | .serial => "SERIAL"
  | .localSerial => "LOCAL_SERIAL"
  | .localOne => "LOCAL_ONE"

def label : Consistency → String
  | .any => "Any"
  | .one => "One"
  | .two => "Two"
  | .three => "Three"
  | .quorum => "Quorum"
  | .all => "All"
  | .localQuorum => "LocalQuorum"
  | .eachQuorum => "EachQuorum"
  | .serial => "Serial"
  | .localSerial => "LocalSerial"
  | .localOne => "LocalOne"

/-- A name in capitals, with underscores for hyphens. -/
def normalName (name : String) : String :=
  String.ofList (name.toList.map fun letter => if letter = '-' then '_' else letter.toUpper)

/-- The level of a name; case does not count, nor does a hyphen for an underscore. -/
def ofName (name : String) : Except Failure Consistency :=
  match values.find? fun level => level.text = normalName name with
  | some level => .ok level
  | none => .error (.ofFault (.configuration ("unknown consistency level `" ++ name ++ "`")))

end Consistency

/-- A request to read entities of a collection. -/
structure Query where
  collection : String
  condition : Option Condition := none
  sorts : List SortKey := []
  limit : Option Nat := none
  skip : Option Nat := none
  /-- The fields to read, all of them when empty. -/
  projection : List String := []
  consistency : Option Consistency := none
  fetchSize : Option Nat := none

/-- A request to remove entities of a collection, or fields of them. -/
structure DeleteQuery where
  collection : String
  /-- Without a condition, all entities. -/
  condition : Option Condition := none
  /-- The fields to remove; when empty, whole entities are removed. -/
  projection : List String := []

def Query.project (query : Query) (names : List String) : Query :=
  { query with projection := query.projection ++ names }

def DeleteQuery.project (query : DeleteQuery) (names : List String) : DeleteQuery :=
  { query with projection := names }

end Polystore
