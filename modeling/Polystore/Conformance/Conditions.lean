import Polystore.Conformance.Check

/-!
Conditions select what they say, and malformed requests are refused before they reach the back end.
-/
namespace Polystore.Conformance

variable {σ : Type}

/-- The entity of a number. -/
def numbered (n : Nat) : Entity :=
  ⟨"conditions_numbers",
    [⟨key, .text ("number-" ++ toString n)⟩, ⟨"n", int32 n⟩, ⟨"name", .text ("item-" ++ toString n)⟩,
      ⟨"even", .boolean (n % 2 = 0)⟩]⟩

/-- The numbers that a condition selects, in ascending order. -/
def selectedNumbers (subject : Subject σ) (condition : Condition) : Check σ (List Int) := do
  let entities ← readAll subject ("Failed to select " ++ condition.debug)
    { collection := "conditions_numbers", condition := some condition }
  return (← numbersOf entities).mergeSort

private def byNumber (operator : Operator) (n : Int) : Condition := .leaf operator ⟨"n", int32 n⟩

private def byName (pattern : String) : Condition := .leaf .like ⟨"name", .text pattern⟩

private def parity (even : Bool) : Condition := .leaf .equals ⟨"even", .boolean even⟩

/-- Conditions, with the numbers that they select. -/
def cases : List (Condition × List Int) :=
  [(keyIs "number-3", [3]),
    (keyIn ["number-1", "number-5"], [1, 5]),
    (.all [keyIs "number-4", keyIn ["number-4", "number-7"]], [4]),
    (keyIs "number-42", []),
    (parity true, [0, 2, 4, 6, 8]),
    (byNumber .greater 6, [7, 8, 9]),
    (byNumber .greaterOrEqual 6, [6, 7, 8, 9]),
    (byNumber .lesser 2, [0, 1]),
    (byNumber .lesserOrEqual 2, [0, 1, 2]),
    (.all [byNumber .greaterOrEqual 2, byNumber .lesser 5], [2, 3, 4]),
    (.leaf .greater ⟨"n", .word (Word.clamp .i64 7)⟩, [8, 9]),
    (.any [keyIs "number-0", keyIs "number-9"], [0, 9]),
    ((parity false).andAlso ((byNumber .greater 4).orElse (byNumber .lesser 2)), [1, 5, 7, 9]),
    (byName "item-1%", [1]),
    (byName "item-_", upTo 10)]

def demandSelected (subject : Subject σ) : List (Condition × List Int) → Check σ Unit
  | [] => pure ()
  | (condition, expected) :: rest => do
    demand ((← selectedNumbers subject condition) = expected)
    demandSelected subject rest

/-- Whether a fault is about the shape of a condition. -/
def isShapeFault : Fault → Bool
  | .conditionShape _ _ => true
  | _ => false

def conditions (subject : Subject σ) : Check σ Unit := do
  let _ ← clear subject "conditions_numbers"
  insertAll subject "Failed to insert into conditions_numbers" ((List.range 10).map numbered)
  demandSelected subject cases
  let selectAll (query : Query) : Action Failure σ Page := subject.connection.selectAll subject.budget query
  refuse "In with a scalar must be rejected"
    (selectAll { collection := "conditions_numbers", condition := some (.leaf .isIn ⟨key, int32 1⟩) }) isShapeFault
  refuse "A query without a collection must be rejected" (selectAll { collection := "" })
    (· = .missingCollection)

end Polystore.Conformance
