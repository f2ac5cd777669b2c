import Polystore.Action
import Polystore.Condition

/-!
Predicate builders translate conditions into the predicates of a back end, one node at a time. Building
checks the shape of the condition first, then each operator against those that the builder supports, and
only then translates, the children before their parent and in their order.
-/
namespace Polystore

/-- A request to translate one node. -/
inductive BuilderCall (P : Type) where
  | leaf (operator : Operator) (field : Field)
  | all (children : List P)
  | any (children : List P)

/-- Translates the nodes of conditions. -/
structure PredicateBuilder (P : Type) where
  /-- The name of the back end in messages. -/
  name : String
  /-- The operators that the back end can express. -/
  supported : OperatorSet
  leaf : Operator → Field → Except Failure P
  all : List P → Except Failure P
  any : List P → Except Failure P

namespace PredicateBuilder

variable {P : Type}

def answer (builder : PredicateBuilder P) : BuilderCall P → Except Failure P
  | .leaf operator field => builder.leaf operator field
  | .all children => builder.all children
  | .any children => builder.any children

/-- Answers one request and appends it to those made before. -/
def request (builder : PredicateBuilder P) (call : BuilderCall P) : Action Failure (List (BuilderCall P)) P := do
  Action.modify (· ++ [call])
  Action.ofResult (builder.answer call)

mutual

/-- Translates a condition, the children of a node before the node. -/
def translate (builder : PredicateBuilder P) : Condition → Action Failure (List (BuilderCall P)) P
  | .leaf operator field => builder.request (.leaf operator field)
  | .all children => do builder.request (.all (← translateAll builder children))
  | .any children => do builder.request (.any (← translateAll builder children))

/-- Translates conditions one after another, up to the first that fails. -/
def translateAll (builder : PredicateBuilder P) :
    List Condition → Action Failure (List (BuilderCall P)) (List P)
  | [] => pure []
  | child :: rest => do
    let first ← translate builder child
    return first :: (← translateAll builder rest)

end

/-- The first operator of a condition that the back end cannot express. -/
def unsupported? (builder : PredicateBuilder P) (condition : Condition) : Option Operator :=
  condition.operators.find? fun operator => !builder.supported.contains operator

/-- The predicate of a condition. The state collects the requests that the builder was sent. -/
def build (builder : PredicateBuilder P) (condition : Condition) :
    Action Failure (List (BuilderCall P)) P := do
  Action.ofResult condition.validate
  match builder.unsupported? condition with
  | some operator =>
    let failure := Failure.ofFault (.unsupportedCondition builder.name operator)
    Action.log .debug .predicate failure.text
    Action.fail failure
  | none => builder.translate condition

/-- The predicate of a condition, in the midst of a computation on other states. -/
def predicateOf {σ : Type} (builder : PredicateBuilder P) (condition : Condition) : Action Failure σ P :=
  (builder.build condition).alone []

/-- The predicate of a condition that may be absent. -/
def predicateOf? {σ : Type} (builder : PredicateBuilder P) :
    Option Condition → Action Failure σ (Option P)
  | none => pure none
  | some condition => do return some (← builder.predicateOf condition)

end PredicateBuilder

end Polystore
