import Polystore.Predicate.Builder
import Polystore.Value.Text

/-!
Key lookups: the predicates of stores that find rows by their keys only. Conditions on the key field give the
keys, and a conjunction keeps the keys that all its children have, in the order of the first.
-/
namespace Polystore

/-- The keys of the rows to fetch. -/
structure KeyLookup where
  keys : List String
deriving DecidableEq, Repr

namespace KeyLookup

/-- The text of a value that is to be a key. -/
def keyText (operator : Operator) (value : Value) : Except Failure String :=
  match value.toText? with
  | some text => .ok text
  | none =>
    .error (.ofFault (.conditionShape operator ("a " ++ value.kind.label ++ " cannot be used as a row key")))

/-- The texts of values that are to be keys. -/
def keyTexts (operator : Operator) : List Value → Except Failure (List String)
  | [] => .ok []
  | value :: rest => do
    let first ← keyText operator value
    return first :: (← keyTexts operator rest)

/-- The lookup of a condition on one field, which must be the key field. -/
def ofLeaf (name key : String) (operator : Operator) (field : Field) : Except Failure KeyLookup :=
  if field.name = key then
    match operator, field.value with
    | .equals, value => (keyText operator value).map fun text => ⟨[text]⟩
    | .isIn, .list items _ => (keyTexts operator items).map KeyLookup.mk
    | _, _ => .error (.ofFault (.unsupportedCondition name operator))
  else
    .error (.ofFault (.conditionShape operator
      ("only the key field `" ++ key ++ "` can be filtered, found `" ++ field.name ++ "`")))

/-- The keys that all lookups have, in the order of the first. -/
def common : List KeyLookup → KeyLookup
  | [] => ⟨[]⟩
  | first :: rest => ⟨first.keys.filter fun key => rest.all fun lookup => lookup.keys.contains key⟩

/-- Builds key lookups on a key field under the name of a back end. -/
def builder (name key : String) : PredicateBuilder KeyLookup where
  name := name
  supported := .keyLookup
  leaf := ofLeaf name key
  all children := .ok (common children)
  any _ := .error (.ofFault (.unsupportedCondition name .any))

end KeyLookup

end Polystore
