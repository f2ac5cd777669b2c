import Polystore.Value.Compare
import Polystore.Failure
import Polystore.Text.Blank

/-!
Entities: a collection name and a sequence of fields. Names may repeat; looking a name up finds its first
field, and replacing a field removes all of its name and appends it.
-/
namespace Polystore

/-- One record of a collection. -/
structure Entity where
  collection : String
  fields : List Field

/-- A collection name that is there and not blank. -/
def requireCollection (collection : String) : Except Failure String :=
  if Text.isAllBlank collection then .error (.ofFault .missingCollection) else .ok collection

theorem requireCollection_eq_ok_iff {collection name : String} :
    requireCollection collection = .ok name ↔ Text.isAllBlank collection = false ∧ name = collection := by
  unfold requireCollection
  cases Text.isAllBlank collection <;> simp [eq_comm]

namespace Entity

def add (entity : Entity) (field : Field) : Entity := { entity with fields := entity.fields ++ [field] }

def addAll (entity : Entity) (fields : List Field) : Entity :=
  { entity with fields := entity.fields ++ fields }

def set (entity : Entity) (name : String) (value : Value) : Entity := entity.add ⟨name, value⟩

def find? (entity : Entity) (name : String) : Option Field :=
  entity.fields.find? fun field => field.name = name

/-- All fields of a name, in order. -/
def findAll (entity : Entity) (name : String) : List Field :=
  entity.fields.filter fun field => field.name = name

def remove (entity : Entity) (name : String) : Entity :=
  { entity with fields := entity.fields.filter fun field => field.name ≠ name }

/-- Removes all fields of a field's name and appends the field. -/
def replace (entity : Entity) (field : Field) : Entity := (entity.remove field.name).add field

def replaceAll (entity : Entity) (fields : List Field) : Entity := fields.foldl replace entity

/-- The names of the fields, in order. -/
def names (entity : Entity) : List String := Named.names entity.fields

/-- The values by name, sorted by name; of several fields of one name the first counts. -/
def byName (entity : Entity) : List (Named Value) :=
  let firsts := entity.fields.foldl (fun seen field => if Named.has seen field.name then seen else
    seen ++ [field]) []
  firsts.mergeSort fun a b => compareText a.name b.name ≠ .gt

/-- Equality of entities: the same collection, and equal fields in the same order. -/
def same (a b : Entity) : Bool := a.collection = b.collection && Value.sameFields a.fields b.fields

/-- The field that identifies an entity under a name; it must be there and not null. -/
def requireIdentity (entity : Entity) (name : String) : Except Failure Field :=
  match entity.find? name with
  | some field =>
    if field.value.isNull then .error (.ofFault (.missingIdentity entity.collection name)) else .ok field
  | none => .error (.ofFault (.missingIdentity entity.collection name))

end Entity

end Polystore
