/-!
The operators of conditions, and sets of operators. A set is the truth value it gives to each operator, so
that two sets with the same members are equal.
-/
namespace Polystore

/-- The operators of conditions. -/
inductive Operator where
  | equals
  | greater
  | greaterOrEqual
  | lesser
  | lesserOrEqual
  | isIn
  | like
  | all
  | any
deriving DecidableEq, Repr

namespace Operator

/-- All operators, in the order in which they are listed. -/
def values : List Operator :=
  [.equals, .greater, .greaterOrEqual, .lesser, .lesserOrEqual, .isIn, .like, .all, .any]

def isCombinator : Operator → Bool
  | .all | .any => true
  | _ => false

def isRange : Operator → Bool
  | .greater | .greaterOrEqual | .lesser | .lesserOrEqual => true
  | _ => false

def text : Operator → String
  | .equals => "EQUALS"
  | .greater => "GREATER_THAN"
  | .greaterOrEqual => "GREATER_EQUALS_THAN"
  | .lesser => "LESSER_THAN"
  | .lesserOrEqual => "LESSER_EQUALS_THAN"
  | .isIn => "IN"
  | .like => "LIKE"
  | .all => "AND"
  | .any => "OR"

def label : Operator → String
  | .equals => "Equals"
  | .greater => "GreaterThan"
  | .greaterOrEqual => "GreaterEqualsThan"
  | .lesser => "LesserThan"
  | .lesserOrEqual => "LesserEqualsThan"
  | .isIn => "In"
  | .like => "Like"
  | .all => "And"
  | .any => "Or"

def ofLabel? (label : String) : Option Operator := values.find? fun operator => operator.label = label

end Operator

/-- A set of operators. -/
structure OperatorSet where
  contains : Operator → Bool

namespace OperatorSet

def empty : OperatorSet := ⟨fun _ => false⟩

def full : OperatorSet := ⟨fun _ => true⟩

def insert (set : OperatorSet) (operator : Operator) : OperatorSet :=
  ⟨fun other => other = operator || set.contains other⟩

def erase (set : OperatorSet) (operator : Operator) : OperatorSet :=
  ⟨fun other => other ≠ operator && set.contains other⟩

def ofList (operators : List Operator) : OperatorSet := operators.foldl insert empty

/-- What stores addressed by row keys can do: find exact keys. -/
def keyLookup : OperatorSet := ofList [.equals, .isIn, .all]

/-- The members, in the order in which operators are listed. -/
def toList (set : OperatorSet) : List Operator := Operator.values.filter set.contains

def debug (set : OperatorSet) : String :=
  "\x7b" ++ String.intercalate ", " (set.toList.map Operator.label) ++ "\x7d"

@[ext] theorem ext {a b : OperatorSet} (same : ∀ operator, a.contains operator = b.contains operator) :
    a = b := by
  cases a; cases b; simp only [OperatorSet.mk.injEq]; exact funext same

@[simp] theorem contains_insert (set : OperatorSet) (operator other : Operator) :
    (set.insert operator).contains other = (other = operator || set.contains other) := rfl

@[simp] theorem contains_erase (set : OperatorSet) (operator other : Operator) :
    (set.erase operator).contains other = (other ≠ operator && set.contains other) := rfl

end OperatorSet

end Polystore
