import Polystore.Predicate.Builder
import Polystore.Converter
import Polystore.Text.Like

/-!
Filters: predicates that are evaluated on fetched rows, for back ends that do not filter themselves. The
values of conditions go through the converter of the stored rows, so that both sides are compared in their
native form.
-/
namespace Polystore

/-- A predicate over rows. -/
inductive Filter where
  | leaf (operator : Operator) (name : String) (value : Value)
  | all (children : List Filter)
  | any (children : List Filter)

namespace Filter

/-- Whether a stored value stands to the value of a leaf as its operator says. -/
def compares (operator : Operator) (actual value : Value) : Bool :=
  match operator with
  | .equals => actual.equals value
  | .isIn => (value.asList?.getD []).any actual.equals
  | .like =>
    match actual.asText?, value.asText? with
    | some text, some pattern => Text.Like.accepts text pattern
    | _, _ => false
  | .greater => actual.compare? value = some .gt
  | .greaterOrEqual => actual.compare? value = some .gt || actual.compare? value = some .eq
  | .lesser => actual.compare? value = some .lt
  | .lesserOrEqual => actual.compare? value = some .lt || actual.compare? value = some .eq
  | .all | .any => false

mutual

/-- Whether a filter holds of a row; a field that the row lacks never matches. -/
def holds (row : Row) : Filter → Bool
  | .leaf operator name value =>
    match Named.find? row name with
    | some actual => compares operator actual.opaqueValue value
    | none => false
  | .all children => holdAll row children
  | .any children => holdAny row children

def holdAll (row : Row) : List Filter → Bool
  | [] => true
  | child :: rest => holds row child && holdAll row rest

def holdAny (row : Row) : List Filter → Bool
  | [] => false
  | child :: rest => holds row child || holdAny row rest

end

/-- The leaf of a field: its value in native form. -/
def ofLeaf (converter : Converter) (operator : Operator) (field : Field) : Except Failure Filter :=
  if operator.isCombinator then
    .error (.ofFault (.conditionShape operator "a combinator cannot be a leaf"))
  else (converter.nativeOf field.value).map fun native => .leaf operator field.name native.opaqueValue

/-- Builds filters under the name of a back end. -/
def builder (name : String) (converter : Converter) (supported : OperatorSet) : PredicateBuilder Filter where
  name := name
  supported := supported
  leaf := ofLeaf converter
  all children := .ok (.all children)
  any children := .ok (.any children)

end Filter

end Polystore
