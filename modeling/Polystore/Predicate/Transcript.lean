import Polystore.Predicate.Builder

/-!
A builder whose predicates are texts, and a text for each request that a builder is sent. It shows in which
order conditions are translated, and can be told to refuse a field.
-/
namespace Polystore.Transcript

/-- The text of a leaf: the operator and the name of the field. -/
def leafText (operator : Operator) (field : Field) : String := operator.text ++ "(" ++ field.name ++ ")"

/-- The text of a combinator: the operator and its children. -/
def combined (operator : Operator) (children : List String) : String :=
  operator.text ++ "[" ++ String.intercalate "," children ++ "]"

/-- Builds texts under the name of a back end; a leaf on the refused field fails. -/
def builder (name : String) (supported : OperatorSet) (refused : Option String) : PredicateBuilder String where
  name := name
  supported := supported
  leaf operator field :=
    if some field.name = refused then .error (.ofNote ("refused " ++ leafText operator field))
    else .ok (leafText operator field)
  all children := .ok (combined .all children)
  any children := .ok (combined .any children)

/-- The text of a request: of a combinator, the operator and the number of its children. -/
def callText : BuilderCall String → String
  | .leaf operator field => leafText operator field
  | .all children => Operator.all.text ++ "/" ++ toString children.length
  | .any children => Operator.any.text ++ "/" ++ toString children.length

end Polystore.Transcript
