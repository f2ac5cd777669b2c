import Polystore.Condition

/-!
The nodes of conditions, parents before children, and the shapes of nodes. Checking a condition and listing its
operators both go through the nodes in this order, the one by recursion and the other with a stack, so that they agree
about which node is the first of its sort.
-/
namespace Polystore.Condition

mutual

/-- The nodes of a condition, each before its children. -/
def nodes : Condition → List Condition
  | .leaf operator field => [.leaf operator field]
  | .all children => .all children :: nodesOf children
  | .any children => .any children :: nodesOf children

def nodesOf : List Condition → List Condition
  | [] => []
  | child :: rest => nodes child ++ nodesOf rest

end

/-- A node whose shape its operator does not take. -/
inductive Malformed : Condition → Prop where
  | childlessAll : Malformed (.all [])
  | childlessAny : Malformed (.any [])
  /-- A combinator is no leaf. -/
  | combinator {operator : Operator} (field : Field) (combines : operator.isCombinator = true) :
    Malformed (.leaf operator field)
  /-- Values are among the elements of a list that is there. -/
  | listless {field : Field} (listless : field.value.asList? = none) : Malformed (.leaf .isIn field)
  /-- A pattern is a text that is there. -/
  | textless {field : Field} (textless : field.value.asText? = none) : Malformed (.leaf .like field)
  /-- A range has a scalar that is there as its bound. -/
  | boundless {operator : Operator} {field : Field} (ranges : operator.isRange = true)
    (boundless : field.value.isNull = true ∨ field.value.isScalar = false) : Malformed (.leaf operator field)

theorem nodes_eq_cons (condition : Condition) : condition.nodes = condition :: nodesOf condition.children := by
  cases condition <;> rfl

theorem nodesOf_append (children more : List Condition) :
    nodesOf (children ++ more) = nodesOf children ++ nodesOf more := by
  induction children with
  | nil => rfl
  | cons child rest ih => simp [nodesOf, ih]

theorem countAll_append (children more : List Condition) :
    countAll (children ++ more) = countAll children + countAll more := by
  induction children with
  | nil => simp [countAll]
  | cons child rest ih => simp [countAll, ih, Nat.add_assoc]

theorem count_eq_succ (condition : Condition) : condition.count = countAll condition.children + 1 := by
  cases condition <;> rfl

/-- A walk that may take enough steps lists the nodes of all conditions on its stack. -/
theorem walk_eq_map (steps : Nat) (stack : List Condition) (enough : countAll stack ≤ steps) :
    walk steps stack = (nodesOf stack).map operator := by
  induction steps generalizing stack with
  | zero =>
    cases stack with
    | nil => rfl
    | cons node rest =>
      rw [countAll, count_eq_succ] at enough
      omega
  | succ steps ih =>
    cases stack with
    | nil => rfl
    | cons node rest =>
      rw [countAll, count_eq_succ] at enough
      have fewer : countAll (node.children ++ rest) ≤ steps := by
        rw [countAll_append]
        omega
      rw [walk, ih _ fewer, nodesOf_append, nodesOf, nodes_eq_cons]
      rfl

theorem operators_eq_map (condition : Condition) : condition.operators = condition.nodes.map operator := by
  have walked := walk_eq_map condition.count [condition] (Nat.le_refl _)
  rwa [nodesOf, nodesOf, List.append_nil] at walked

/-- What is wrong with the shape of a node, its children aside. -/
def defect? : Condition → Option Failure
  | .leaf operator field =>
    match validateLeaf operator field with
    | .error failure => some failure
    | .ok _ => none
  | .all [] => some (.ofFault (.conditionShape .all "a combinator needs at least one child"))
  | .any [] => some (.ofFault (.conditionShape .any "a combinator needs at least one child"))
  | .all (_ :: _) | .any (_ :: _) => none

/-- A check that fails with a failure, if there is one. -/
def verdict : Option Failure → Except Failure Unit
  | some failure => .error failure
  | none => .ok ()

theorem verdict_or (first second : Option Failure) :
    (do verdict first; verdict second) = verdict (first.or second) := by
  cases first <;> rfl

mutual

/-- A condition is checked node by node, parents before children, up to the first that is malformed. -/
theorem validate_eq_verdict : (condition : Condition) →
    condition.validate = verdict (condition.nodes.findSome? defect?)
  | .leaf operator field => by
    cases checked : validateLeaf operator field <;> simp [validate, nodes, defect?, checked, verdict]
  | .all [] | .any [] => rfl
  | .all (child :: rest) | .any (child :: rest) => by
    rw [validate, validateChildren, validate_eq_verdict child, validateAll_eq_verdict rest, verdict_or, nodes,
      List.findSome?_cons, nodesOf, List.findSome?_append]
    rfl

theorem validateAll_eq_verdict : (children : List Condition) →
    validateAll children = verdict ((nodesOf children).findSome? defect?)
  | [] => rfl
  | child :: rest => by
    rw [validateAll, validate_eq_verdict child, validateAll_eq_verdict rest, verdict_or, nodesOf,
      List.findSome?_append]

end

/-- Whether a value can bound a range. -/
theorem fits_range_iff {value : Value} :
    (value.isScalar && !value.isNull) = true ↔ ¬ (value.isNull = true ∨ value.isScalar = false) := by
  cases value.isNull <;> cases value.isScalar <;> decide

/-- A malformed node is told by its operator. -/
theorem defect?_of_malformed {node : Condition} (malformed : node.Malformed) :
    ∃ detail, node.defect? = some (.ofFault (.conditionShape node.operator detail)) := by
  cases malformed with
  | childlessAll => exact ⟨_, rfl⟩
  | childlessAny => exact ⟨_, rfl⟩
  | @combinator operator field combines =>
    cases operator
    case all => exact ⟨_, rfl⟩
    case any => exact ⟨_, rfl⟩
    all_goals cases combines
  | listless listless => exact ⟨_, by rw [defect?, validateLeaf, listless]; rfl⟩
  | textless textless => exact ⟨_, by rw [defect?, validateLeaf, textless]; rfl⟩
  | @boundless operator field ranges boundless =>
    have unfit : (field.value.isScalar && !field.value.isNull) = false :=
      Bool.eq_false_iff.mpr fun fits => fits_range_iff.mp fits boundless
    cases operator
    case greater | greaterOrEqual | lesser | lesserOrEqual =>
      exact ⟨_, by rw [defect?, validateLeaf, unfit]; rfl⟩
    all_goals cases ranges

theorem defect?_of_not_malformed {node : Condition} (formed : ¬ node.Malformed) : node.defect? = none := by
  cases node with
  | all children =>
    cases children with
    | nil => exact absurd .childlessAll formed
    | cons child rest => rfl
  | any children =>
    cases children with
    | nil => exact absurd .childlessAny formed
    | cons child rest => rfl
  | leaf operator field =>
    cases operator with
    | equals => rfl
    | all => exact absurd (.combinator field rfl) formed
    | any => exact absurd (.combinator field rfl) formed
    | isIn =>
      have listed : field.value.asList?.isSome = true :=
        Option.isSome_iff_ne_none.mpr fun none => formed (.listless none)
      simp only [defect?, validateLeaf, listed, if_true]
    | like =>
      have worded : field.value.asText?.isSome = true :=
        Option.isSome_iff_ne_none.mpr fun none => formed (.textless none)
      simp only [defect?, validateLeaf, worded, if_true]
    | _ =>
      have fits : (field.value.isScalar && !field.value.isNull) = true :=
        fits_range_iff.mpr fun boundless => formed (.boundless rfl boundless)
      simp only [defect?, validateLeaf, fits, if_true]

/-- Checking a condition fails at the first malformed node. -/
theorem validate_of_malformed {condition node : Condition} {before after : List Condition}
    (split : condition.nodes = before ++ node :: after) (malformed : node.Malformed)
    (first : ∀ earlier ∈ before, ¬ earlier.Malformed) :
    ∃ detail, condition.validate = .error (.ofFault (.conditionShape node.operator detail)) := by
  obtain ⟨detail, defect⟩ := defect?_of_malformed malformed
  have formed : before.findSome? defect? = none :=
    List.findSome?_eq_none_iff.mpr fun earlier member => defect?_of_not_malformed (first earlier member)
  refine ⟨detail, ?_⟩
  rw [validate_eq_verdict, split, List.findSome?_append, formed, Option.none_or, List.findSome?_cons, defect]
  rfl

theorem validate_of_formed {condition : Condition} (formed : ∀ node ∈ condition.nodes, ¬ node.Malformed) :
    condition.validate = .ok () := by
  have none : condition.nodes.findSome? defect? = none :=
    List.findSome?_eq_none_iff.mpr fun node member => defect?_of_not_malformed (formed node member)
  rw [validate_eq_verdict, none]
  rfl

end Polystore.Condition
