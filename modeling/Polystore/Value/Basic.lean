import Polystore.Kind
import Polystore.Named

/-!
Values: what a field of an entity holds. Scalars carry typed nulls, as a column would. Lists remember a value
of their element type as a hint, maps keep the order of insertion, documents are nested fields, and a custom
value is an application's own.
-/
namespace Polystore

/-- What an application puts into a custom value, as far as its writers look at it. -/
inductive Payload where
  | integer (value : Word .i64)
  | text (value : String)
  | hidden
deriving DecidableEq

/-- A value of an application's own type. Two are the same when they share their allocation. -/
structure Custom where
  typeName : String
  payload : Payload
  allocation : Nat
deriving DecidableEq

/-- What a field holds. -/
inductive Value where
  | null
  /-- A scalar, or the null of its type. -/
  | scalar (type : ScalarType) (value : Option type.Carrier)
  /-- The null of the lists. -/
  | nullList (hint : Value)
  | list (items : List Value) (hint : Value)
  /-- The null of the maps. -/
  | nullMap
  | map (entries : List (Named Value))
  /-- A single named sub-document. -/
  | document (field : Named Value)
  /-- A sub-document: a sequence of fields. -/
  | documents (fields : List (Named Value))
  | custom (value : Custom)

instance : Inhabited Value := ⟨.null⟩

/-- A named value inside an entity or a document. -/
abbrev Field := Named Value

namespace Value

def text (value : String) : Value := .scalar .text (some value)

def word {kind : IntKind} (value : Word kind) : Value := .scalar (.integer kind) (some value)

def boolean (value : Bool) : Value := .scalar .boolean (some value)

def kind : Value → Kind
  | .null => .null
  | .scalar type _ => .scalar type
  | .nullList _ | .list _ _ => .list
  | .nullMap | .map _ => .map
  | .document _ => .document
  | .documents _ => .documents
  | .custom _ => .custom

/-- Whether a value is the null or a typed null. -/
def isNull : Value → Bool
  | .null | .scalar _ none | .nullList _ | .nullMap => true
  | _ => false

/-- Whether a value is no list, no map and no document. -/
def isScalar : Value → Bool
  | .null | .scalar _ _ | .custom _ => true
  | _ => false

def asText? : Value → Option String
  | .scalar .text value => value
  | _ => none

/-- The elements of a list that is no null. -/
def asList? : Value → Option (List Value)
  | .list items _ => some items
  | _ => none

end Value

end Polystore
