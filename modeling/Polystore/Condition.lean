import Polystore.Failure
import Polystore.Value.Text

/-!
Conditions over the fields of an entity. Leaves compare one field, combinators keep their children in the
order in which they were given, and nothing reorders or simplifies the tree. A condition is well formed when
each of its nodes has the shape that its operator takes.
-/
namespace Polystore

/-- A truth value over the fields of an entity. -/
inductive Condition where
  | leaf (operator : Operator) (field : Field)
  | all (children : List Condition)
  | any (children : List Condition)

instance : Inhabited Condition := ⟨.all []⟩

namespace Condition

/-- Both conditions; a conjunction takes the other one as its last child. -/
def andAlso (condition other : Condition) : Condition :=
  match condition with
  | .all children => .all (children ++ [other])
  | condition => .all [condition, other]

/-- One of the conditions; a disjunction takes the other one as its last child. -/
def orElse (condition other : Condition) : Condition :=
  match condition with
  | .any children => .any (children ++ [other])
  | condition => .any [condition, other]

def operator : Condition → Operator
  | .leaf operator _ => operator
  | .all _ => .all
  | .any _ => .any

/-- The children of a node, none for a leaf. -/
def children : Condition → List Condition
  | .leaf _ _ => []
  | .all children | .any children => children

mutual

/-- How many nodes a condition has. -/
def count : Condition → Nat
  | .leaf _ _ => 1
  | .all children | .any children => countAll children + 1

def countAll : List Condition → Nat
  | [] => 0
  | child :: rest => count child + countAll rest

end

/-- The operators of so many nodes, from a stack with its top first. A node is taken off before its children are put
on, the last child first. -/
def walk : Nat → List Condition → List Operator
  | 0, _ | _, [] => []
  | steps + 1, node :: stack => node.operator :: walk steps (node.children ++ stack)

/-- The operators of all nodes, parents before children. -/
def operators (condition : Condition) : List Operator := walk condition.count [condition]

mutual

def debug : Condition → String
  | .leaf operator field =>
    "Leaf \x7b operator: " ++ operator.label ++ ", field: " ++ Value.debugField field ++ " \x7d"
  | .all children => "And(" ++ bracketed "[" "]" (debugAll children) ++ ")"
  | .any children => "Or(" ++ bracketed "[" "]" (debugAll children) ++ ")"

def debugAll : List Condition → List String
  | [] => []
  | child :: rest => debug child :: debugAll rest

end

/-- A node whose shape its operator does not take. -/
def malformed (operator : Operator) (detail : String) : Except Failure Unit :=
  .error (.ofFault (.conditionShape operator detail))

def validateLeaf (operator : Operator) (field : Field) : Except Failure Unit :=
  match operator with
  | .isIn =>
    if field.value.asList?.isSome then .ok ()
    else malformed operator ("`" ++ field.name ++ "` must hold a list")
  | .like =>
    if field.value.asText?.isSome then .ok ()
    else malformed operator ("`" ++ field.name ++ "` must hold a text pattern")
  | .greater | .greaterOrEqual | .lesser | .lesserOrEqual =>
    if field.value.isScalar && !field.value.isNull then .ok ()
    else malformed operator ("`" ++ field.name ++ "` must hold a non null scalar")
  | .all | .any => malformed operator "a combinator cannot be a leaf"
  | .equals => .ok ()

mutual

/-- Checks the shape of every node, up to the first that is malformed. -/
def validate : Condition → Except Failure Unit
  | .leaf operator field => validateLeaf operator field
  | .all children => validateChildren .all children
  | .any children => validateChildren .any children

/-- Checks the children of a combinator, of which there must be one. -/
def validateChildren (operator : Operator) : List Condition → Except Failure Unit
  | [] => malformed operator "a combinator needs at least one child"
  | child :: rest => do validate child; validateAll rest

def validateAll : List Condition → Except Failure Unit
  | [] => .ok ()
  | child :: rest => do validate child; validateAll rest

end

end Condition

end Polystore
