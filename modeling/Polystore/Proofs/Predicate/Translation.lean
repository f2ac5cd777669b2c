import Mathlib.Data.List.Forall2
import Polystore.Proofs.Executor.Conversations
import Polystore.Proofs.Predicate.Shapes

/-!
Translating conditions. A condition is checked as a whole before its builder is asked anything: first the shapes of its
nodes, then their operators. What passes is translated node by node, children before parents and in their order, and
the predicate is the image of the tree. A read or a removal asks its session nothing before all this is done.
-/
namespace Polystore

open Polystore.Action

variable {σ P : Type}

namespace Condition

mutual

/-- The nodes of a condition, each behind its children. -/
def nodesUpward : Condition → List Condition
  | .leaf operator field => [.leaf operator field]
  | .all children => nodesUpwardOf children ++ [.all children]
  | .any children => nodesUpwardOf children ++ [.any children]

def nodesUpwardOf : List Condition → List Condition
  | [] => []
  | child :: rest => nodesUpward child ++ nodesUpwardOf rest

end

mutual

theorem nodesUpward_perm : (condition : Condition) → condition.nodesUpward.Perm condition.nodes
  | .leaf _ _ => .refl _
  | .all children | .any children =>
    (List.perm_append_singleton _ _).trans ((nodesUpwardOf_perm children).cons _)

theorem nodesUpwardOf_perm : (children : List Condition) → (nodesUpwardOf children).Perm (nodesOf children)
  | [] => .refl _
  | child :: rest => (nodesUpward_perm child).append (nodesUpwardOf_perm rest)

end

end Condition

/-- The requests that ask for a node: a leaf as it is, and a combinator with a predicate for each child. -/
inductive BuilderCall.AsksFor : BuilderCall P → Condition → Prop where
  | leaf (operator : Operator) (field : Field) : AsksFor (.leaf operator field) (.leaf operator field)
  | all {parts : List P} {children : List Condition} (each : parts.length = children.length) :
    AsksFor (.all parts) (.all children)
  | any {parts : List P} {children : List Condition} (each : parts.length = children.length) :
    AsksFor (.any parts) (.any children)

namespace PredicateBuilder

mutual

/-- The image of a condition: each node is what the builder makes of it and of the images of its children in their
order. The requests are those that give it, in their order. -/
inductive Image (builder : PredicateBuilder P) : Condition → List (BuilderCall P) → P → Prop where
  | leaf {operator : Operator} {field : Field} {predicate : P}
    (answered : builder.leaf operator field = .ok predicate) :
    Image builder (.leaf operator field) [.leaf operator field] predicate
  | all {children : List Condition} {calls : List (BuilderCall P)} {parts : List P} {predicate : P}
    (images : Images builder children calls parts) (answered : builder.all parts = .ok predicate) :
    Image builder (.all children) (calls ++ [.all parts]) predicate
  | any {children : List Condition} {calls : List (BuilderCall P)} {parts : List P} {predicate : P}
    (images : Images builder children calls parts) (answered : builder.any parts = .ok predicate) :
    Image builder (.any children) (calls ++ [.any parts]) predicate

/-- The images of conditions, one after another. -/
inductive Images (builder : PredicateBuilder P) : List Condition → List (BuilderCall P) → List P → Prop where
  | nil : Images builder [] [] []
  | cons {child : Condition} {rest : List Condition} {calls more : List (BuilderCall P)} {part : P} {parts : List P}
    (first : Image builder child calls part) (others : Images builder rest more parts) :
    Images builder (child :: rest) (calls ++ more) (part :: parts)

end

/-- How translating ends: with an image, or with the first request that fails. -/
def Ends (builder : PredicateBuilder P) {α : Type} (image : List (BuilderCall P) → α → Prop)
    (calls : List (BuilderCall P)) : Except Failure α → Prop
  | .ok predicate => image calls predicate ∧ ∀ call ∈ calls, (builder.answer call).isOk
  | .error failure => ∃ answered last, calls = answered ++ [last] ∧ builder.answer last = .error failure ∧
      ∀ call ∈ answered, (builder.answer call).isOk

theorem effect_request (builder : PredicateBuilder P) (call : BuilderCall P) (record : List (BuilderCall P)) :
    effect (builder.request call) record = (builder.answer call, record ++ [call]) := rfl

/-- How an action ends that adds its requests to those made before. -/
def Translating (builder : PredicateBuilder P) {α : Type} (image : List (BuilderCall P) → α → Prop)
    (action : Action Failure (List (BuilderCall P)) α) : Prop :=
  ∀ record, ∃ result calls, effect action record = (result, record ++ calls) ∧ builder.Ends image calls result

/-- A request behind others ends as they do if they fail, and else with its answer. -/
theorem translating_request {builder : PredicateBuilder P} {images : List (BuilderCall P) → List P → Prop}
    {image : List (BuilderCall P) → P → Prop} {call : List P → BuilderCall P}
    {action : Action Failure (List (BuilderCall P)) (List P)} (inner : builder.Translating images action)
    (whole : ∀ calls parts predicate, images calls parts → builder.answer (call parts) = .ok predicate →
      image (calls ++ [call parts]) predicate) :
    builder.Translating image (do builder.request (call (← action))) := by
  intro record
  obtain ⟨result, calls, made, ends⟩ := inner record
  cases result with
  | error failure => exact ⟨.error failure, calls, by rw [effect_bind, made], ends⟩
  | ok parts =>
    obtain ⟨images, answered⟩ := ends
    refine ⟨builder.answer (call parts), calls ++ [call parts], ?_, ?_⟩
    · rw [effect_bind, made]
      simp only [effect_request, List.append_assoc]
    · cases last : builder.answer (call parts) with
      | error failure => exact ⟨calls, call parts, rfl, last, answered⟩
      | ok predicate =>
        refine ⟨whole calls parts predicate images last, fun other member => ?_⟩
        rcases List.mem_append.mp member with before | here
        · exact answered other before
        · rw [List.mem_singleton.mp here, last]
          rfl

/-- Translating one condition and then others ends with the first failure of either. -/
theorem translating_cons {builder : PredicateBuilder P} {child : Condition} {rest : List Condition}
    (first : builder.Translating (builder.Image child) (builder.translate child))
    (others : builder.Translating (builder.Images rest) (builder.translateAll rest)) :
    builder.Translating (builder.Images (child :: rest)) (builder.translateAll (child :: rest)) := by
  intro record
  obtain ⟨result, calls, made, ends⟩ := first record
  cases result with
  | error failure => exact ⟨.error failure, calls, by rw [translateAll, effect_bind, made], ends⟩
  | ok part =>
    obtain ⟨image, answered⟩ := ends
    obtain ⟨result, more, madeMore, endsMore⟩ := others (record ++ calls)
    cases result with
    | error failure =>
      obtain ⟨before, last, split, failed, answeredMore⟩ := endsMore
      refine ⟨.error failure, calls ++ more, ?_, calls ++ before, last, ?_, failed, ?_⟩
      · rw [translateAll, effect_bind, made]
        simp only [effect_bind, madeMore, List.append_assoc]
      · rw [split, List.append_assoc]
      · intro call member
        exact (List.mem_append.mp member).elim (answered call) (answeredMore call)
    | ok parts =>
      obtain ⟨images, answeredMore⟩ := endsMore
      refine ⟨.ok (part :: parts), calls ++ more, ?_, .cons image images, ?_⟩
      · rw [translateAll, effect_bind, made]
        simp only [effect_bind, madeMore, effect_pure, List.append_assoc]
      · intro call member
        exact (List.mem_append.mp member).elim (answered call) (answeredMore call)

mutual

/-- However translating a condition ends, it ends with an image or with the first request that fails. -/
theorem translating (builder : PredicateBuilder P) :
    (condition : Condition) → builder.Translating (builder.Image condition) (builder.translate condition)
  | .leaf operator field => by
    intro record
    refine ⟨builder.leaf operator field, [.leaf operator field], rfl, ?_⟩
    cases answered : builder.leaf operator field with
    | error failure => exact ⟨[], .leaf operator field, rfl, answered, by simp⟩
    | ok predicate => exact ⟨.leaf answered, by simp [answer, answered, Except.isOk, Except.toBool]⟩
  | .all children => translating_request (translatingAll builder children) fun _ _ _ images => .all images
  | .any children => translating_request (translatingAll builder children) fun _ _ _ images => .any images

theorem translatingAll (builder : PredicateBuilder P) :
    (children : List Condition) → builder.Translating (builder.Images children) (builder.translateAll children)
  | [] => fun record => ⟨.ok [], [], by rw [List.append_nil]; rfl, .nil, by simp⟩
  | child :: rest => translating_cons (translating builder child) (translatingAll builder rest)

end

mutual

/-- A condition that has an image is translated into it. -/
theorem effect_translate_of_image {builder : PredicateBuilder P} {condition : Condition}
    {calls : List (BuilderCall P)} {predicate : P} (record : List (BuilderCall P)) :
    builder.Image condition calls predicate →
      effect (builder.translate condition) record = (.ok predicate, record ++ calls)
  | .leaf answered => congrArg (·, _) answered
  | .all images answered => by
    rw [translate, effect_bind, effect_translateAll_of_images record images]
    simp only [effect_request, answer, answered, List.append_assoc]
  | .any images answered => by
    rw [translate, effect_bind, effect_translateAll_of_images record images]
    simp only [effect_request, answer, answered, List.append_assoc]

theorem effect_translateAll_of_images {builder : PredicateBuilder P} {children : List Condition}
    {calls : List (BuilderCall P)} {parts : List P} (record : List (BuilderCall P)) :
    builder.Images children calls parts →
      effect (builder.translateAll children) record = (.ok parts, record ++ calls)
  | .nil => by rw [List.append_nil]; rfl
  | .cons first others => by
    rw [translateAll, effect_bind, effect_translate_of_image record first]
    simp only [effect_bind, effect_translateAll_of_images _ others, effect_pure, List.append_assoc]

end

mutual

/-- The requests that give an image ask for each node once, in their order. -/
theorem Image.asks {builder : PredicateBuilder P} {condition : Condition} {calls : List (BuilderCall P)}
    {predicate : P} :
    builder.Image condition calls predicate → List.Forall₂ BuilderCall.AsksFor calls condition.nodesUpward
  | .leaf _ => .cons (.leaf _ _) .nil
  | .all images _ => List.rel_append images.asks.1 (.cons (.all images.asks.2) .nil)
  | .any images _ => List.rel_append images.asks.1 (.cons (.any images.asks.2) .nil)

theorem Images.asks {builder : PredicateBuilder P} {children : List Condition} {calls : List (BuilderCall P)}
    {parts : List P} :
    builder.Images children calls parts →
      List.Forall₂ BuilderCall.AsksFor calls (Condition.nodesUpwardOf children) ∧ parts.length = children.length
  | .nil => ⟨.nil, rfl⟩
  | .cons first others => ⟨List.rel_append first.asks others.asks.1, congrArg (· + 1) others.asks.2⟩

end

/-- A malformed condition is refused before any request is made. -/
theorem effect_build_of_invalid {builder : PredicateBuilder P} {condition : Condition} {failure : Failure}
    (invalid : condition.validate = .error failure) (record : List (BuilderCall P)) :
    effect (builder.build condition) record = (.error failure, record) := by
  rw [build, effect_bind, effect_ofResult, invalid]

theorem effect_build_of_unsupported {builder : PredicateBuilder P} {condition : Condition} {operator : Operator}
    (valid : condition.validate = .ok ()) (unsupported : builder.unsupported? condition = some operator)
    (record : List (BuilderCall P)) :
    effect (builder.build condition) record =
      (.error (.ofFault (.unsupportedCondition builder.name operator)), record) := by
  rw [build, effect_bind, effect_ofResult, valid]
  simp [unsupported, effect_bind]

theorem effect_build_of_passed {builder : PredicateBuilder P} {condition : Condition}
    (valid : condition.validate = .ok ()) (supported : builder.unsupported? condition = none)
    (record : List (BuilderCall P)) :
    effect (builder.build condition) record = effect (builder.translate condition) record := by
  rw [build, effect_bind, effect_ofResult, valid]
  simp only [supported]

/-- The operator that is refused is that of the first node with an unsupported one. -/
theorem unsupported?_of_split {builder : PredicateBuilder P} {condition node : Condition}
    {before after : List Condition} (split : condition.nodes = before ++ node :: after)
    (refused : builder.supported.contains node.operator = false)
    (first : ∀ earlier ∈ before, builder.supported.contains earlier.operator = true) :
    builder.unsupported? condition = some node.operator := by
  have none : (before.map Condition.operator).find? (fun operator => !builder.supported.contains operator) = none := by
    refine List.find?_eq_none.mpr fun operator member => ?_
    obtain ⟨earlier, present, rfl⟩ := List.mem_map.mp member
    simp [first earlier present]
  rw [unsupported?, Condition.operators_eq_map, split, List.map_append, List.find?_append, none, Option.none_or,
    List.map_cons, List.find?_cons_of_pos (by simp [refused])]

theorem unsupported?_of_supported {builder : PredicateBuilder P} {condition : Condition}
    (supported : ∀ node ∈ condition.nodes, builder.supported.contains node.operator = true) :
    builder.unsupported? condition = none := by
  rw [unsupported?, Condition.operators_eq_map]
  refine List.find?_eq_none.mpr fun operator member => ?_
  obtain ⟨node, present, rfl⟩ := List.mem_map.mp member
  simp [supported node present]

/-- How a builder makes a predicate of a condition. -/
structure Builds (builder : PredicateBuilder P) (condition : Condition) : Prop where
  /-- The first malformed node is refused, and nothing is requested. -/
  malformed : ∀ before node after, condition.nodes = before ++ node :: after → node.Malformed →
    (∀ earlier ∈ before, ¬ earlier.Malformed) →
    ∃ detail, effect (builder.build condition) [] =
      (.error (.ofFault (.conditionShape node.operator detail)), [])
  /-- Of a well formed condition the first unsupported operator is refused, and nothing is requested. -/
  unsupported : (∀ node ∈ condition.nodes, ¬ node.Malformed) →
    ∀ before node after, condition.nodes = before ++ node :: after →
    builder.supported.contains node.operator = false →
    (∀ earlier ∈ before, builder.supported.contains earlier.operator = true) →
    effect (builder.build condition) [] = (.error (.ofFault (.unsupportedCondition builder.name node.operator)), [])
  /-- What passes the checks has a predicate just when every request is answered. The predicate is the image of the
  condition, and each node is asked for once, behind its children. -/
  image : (∀ node ∈ condition.nodes, ¬ node.Malformed ∧ builder.supported.contains node.operator = true) →
    let (result, calls) := effect (builder.build condition) []
    (result.isOk ↔ ∀ call ∈ calls, (builder.answer call).isOk) ∧
      (∀ predicate, result = .ok predicate ↔ builder.Image condition calls predicate) ∧
      (∀ predicate made, builder.Image condition made predicate → result = .ok predicate ∧ calls = made) ∧
      (result.isOk → List.Forall₂ BuilderCall.AsksFor calls condition.nodesUpward) ∧
      condition.nodesUpward.Perm condition.nodes
  /-- What passes the checks fails with the first request that fails, which is the last one made. -/
  failure : (∀ node ∈ condition.nodes, ¬ node.Malformed ∧ builder.supported.contains node.operator = true) →
    ∀ failure calls, effect (builder.build condition) [] = (.error failure, calls) →
    ∃ answered last, calls = answered ++ [last] ∧ builder.answer last = .error failure ∧
      ∀ call ∈ answered, (builder.answer call).isOk

theorem builds (builder : PredicateBuilder P) (condition : Condition) : builder.Builds condition := by
  have translates (passed : ∀ node ∈ condition.nodes,
      ¬ node.Malformed ∧ builder.supported.contains node.operator = true) :
      effect (builder.build condition) [] = effect (builder.translate condition) [] :=
    effect_build_of_passed (Condition.validate_of_formed fun node member => (passed node member).1)
      (unsupported?_of_supported fun node member => (passed node member).2) []
  constructor
  case malformed =>
    intro before node after split malformed first
    obtain ⟨detail, invalid⟩ := Condition.validate_of_malformed split malformed first
    exact ⟨detail, effect_build_of_invalid invalid []⟩
  case unsupported =>
    intro formed before node after split refused first
    have unsupported := unsupported?_of_split split refused first
    exact effect_build_of_unsupported (Condition.validate_of_formed formed) unsupported []
  case image =>
    intro passed
    rw [translates passed]
    obtain ⟨result, calls, made, ends⟩ := builder.translating condition []
    rw [made, List.nil_append]
    have whole (predicate : P) (others : List (BuilderCall P)) (image : builder.Image condition others predicate) :
        result = .ok predicate ∧ calls = others := by
      have same := effect_translate_of_image [] image
      rw [made] at same
      exact Prod.mk.inj same
    cases result with
    | error failure =>
      obtain ⟨answered, last, split, failed, _⟩ := ends
      refine ⟨⟨nofun, fun all => ?_⟩, fun predicate => ⟨nofun, fun image => (whole predicate calls image).1⟩, whole,
        nofun, condition.nodesUpward_perm⟩
      have ok := all last (split ▸ List.mem_append_right answered (List.mem_singleton_self last))
      rw [failed] at ok
      cases ok
    | ok predicate =>
      obtain ⟨image, answered⟩ := ends
      refine ⟨⟨fun _ => answered, fun _ => rfl⟩, fun other => ⟨?_, fun image => (whole other calls image).1⟩, whole,
        fun _ => image.asks, condition.nodesUpward_perm⟩
      rintro ⟨⟩
      exact image
  case failure =>
    intro passed failure calls failed
    obtain ⟨result, made, translated, ends⟩ := builder.translating condition []
    rw [translates passed, translated, List.nil_append] at failed
    cases failed
    exact ends

end PredicateBuilder

namespace Executor

/-- A read or a removal that is refused asks its session nothing. -/
structure ChecksFirst (executor : Executor σ P) : Prop where
  blankSelect : ∀ budget query cursor state record, cursor.exhausted = false →
    Text.isAllBlank query.collection = true →
    effect (executor.recorded.select budget query cursor) (state, record) =
      (.error (.ofFault .missingCollection), (state, record))
  unbuiltSelect : ∀ budget query cursor state record condition failure, cursor.exhausted = false →
    Text.isAllBlank query.collection = false → query.condition = some condition →
    (effect (executor.session.builder.build condition) []).1 = .error failure →
    effect (executor.recorded.select budget query cursor) (state, record) = (.error failure, (state, record))
  blankDelete : ∀ query state record, Text.isAllBlank query.collection = true →
    effect (executor.recorded.deletePredicate query) (state, record) =
      (.error (.ofFault .missingCollection), (state, record))
  unbuiltDelete : ∀ query state record condition failure,
    Text.isAllBlank query.collection = false → query.condition = some condition →
    (effect (executor.session.builder.build condition) []).1 = .error failure →
    effect (executor.recorded.deletePredicate query) (state, record) = (.error failure, (state, record))

/-- The predicate of a condition without one fails as its builder does. -/
theorem predicateFor_of_unbuilt {builder : PredicateBuilder P} {condition : Condition} {failure : Failure}
    (unbuilt : (effect (builder.build condition) []).1 = .error failure) :
    builder.predicateFor (some condition) = .error failure := by
  rw [PredicateBuilder.predicateFor, unbuilt]
  rfl

theorem checksFirst (executor : Executor σ P) : executor.ChecksFirst := by
  constructor
  case blankSelect =>
    intro budget query cursor state record more blank
    refine executor.recorded.effect_select_refused ?_ budget more (state, record)
    rw [accepted, requireCollection, if_pos blank]
    rfl
  case unbuiltSelect =>
    intro budget query cursor state record condition failure more named asked unbuilt
    refine executor.recorded.effect_select_refused ?_ budget more (state, record)
    rw [accepted, requireCollection, named, asked]
    exact predicateFor_of_unbuilt unbuilt
  case blankDelete =>
    intro query state record blank
    rw [effect_deletePredicate, requireCollection, if_pos blank]
    rfl
  case unbuiltDelete =>
    intro query state record condition failure named asked unbuilt
    rw [effect_deletePredicate, requireCollection, named, asked]
    exact congrArg (·, _) (predicateFor_of_unbuilt unbuilt)

end Executor

/-- The first malformed node is refused, else the first unsupported one, and the builder is not asked; what passes is
translated node by node, before a session is asked anything. -/
theorem PredicateBuilder.translation_follows_checks (builder : PredicateBuilder P) :
    (∀ condition, builder.Builds condition) ∧ ∀ (σ : Type) (executor : Executor σ P), executor.ChecksFirst :=
  ⟨builder.builds, fun _ executor => executor.checksFirst⟩

end Polystore
