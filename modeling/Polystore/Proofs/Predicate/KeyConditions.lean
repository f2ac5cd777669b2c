import Polystore.Proofs.Converter.Elements
import Polystore.Proofs.Converter.Rewriting
import Polystore.Proofs.Predicate.Translation
import Polystore.Proofs.Value.Equality
import Polystore.Store.Predicate

/-!
Conditions on the key alone, and what the two addressings make of them. A key lookup lists the texts of the leftmost
leaf that all other leaves have, too. A filter looks at the key that a row shows, and holds where the lookup has it.
-/
namespace Polystore

variable {P : Type}

/-- The texts that a leaf compares with: those in a list, or a single one. -/
def Value.texts : Value → List String
  | .list items _ => items.filterMap Value.asText?
  | value => value.asText?.toList

theorem Value.texts_text (text : String) : (Value.text text).texts = [text] := rfl

theorem Value.texts_list (texts : List String) (hint : Value) : (Value.list (texts.map .text) hint).texts = texts := by
  have whole : Value.asText? ∘ Value.text = some := rfl
  rw [Value.texts, List.filterMap_map, whole, List.filterMap_some]

namespace Condition

/-- The conditions that compare the key with texts: equality and membership, and conjunctions of them in any depth. -/
inductive OnKey (key : String) : Condition → Prop where
  | equals (text : String) : OnKey key (.leaf .equals ⟨key, .text text⟩)
  | isIn (texts : List String) (hint : Value) : OnKey key (.leaf .isIn ⟨key, .list (texts.map .text) hint⟩)
  | all {children : List Condition} (some : children ≠ []) (each : ∀ child ∈ children, OnKey key child) :
    OnKey key (.all children)

mutual

/-- The texts of the leftmost leaf, in their order. -/
def leftmost : Condition → List String
  | .leaf _ field => field.value.texts
  | .all children | .any children => leftmostOf children

def leftmostOf : List Condition → List String
  | [] => []
  | child :: _ => leftmost child

end

mutual

/-- Whether a condition on the key alone allows a key. -/
def allows (text : String) : Condition → Bool
  | .leaf _ field => field.value.texts.contains text
  | .all children => allowsAll text children
  | .any children => allowsAny text children

def allowsAll (text : String) : List Condition → Bool
  | [] => true
  | child :: rest => allows text child && allowsAll text rest

def allowsAny (text : String) : List Condition → Bool
  | [] => false
  | child :: rest => allows text child || allowsAny text rest

end

/-- The lookup of a condition on the key alone. -/
def lookup (condition : Condition) : KeyLookup := ⟨condition.leftmost.filter (condition.allows ·)⟩

theorem allowsAll_eq_all (text : String) (children : List Condition) :
    allowsAll text children = children.all (allows text) := by
  induction children with
  | nil => rfl
  | cons child rest ih => rw [allowsAll, ih, List.all_cons]

theorem mem_nodesOf {node : Condition} {children : List Condition} :
    node ∈ nodesOf children ↔ ∃ child ∈ children, node ∈ child.nodes := by
  induction children with
  | nil => simp [nodesOf]
  | cons child rest ih => simp [nodesOf, ih]

namespace OnKey

variable {key : String} {condition : Condition}

/-- The nodes of a condition on the key alone are such conditions. -/
theorem nodes (onKey : condition.OnKey key) : ∀ node ∈ condition.nodes, node.OnKey key := by
  induction onKey with
  | equals text =>
    intro node member
    cases List.mem_singleton.mp member
    exact .equals text
  | isIn texts hint =>
    intro node member
    cases List.mem_singleton.mp member
    exact .isIn texts hint
  | all some each ih =>
    intro node member
    rcases List.mem_cons.mp member with rfl | inside
    · exact .all some each
    · obtain ⟨child, present, within⟩ := mem_nodesOf.mp inside
      exact ih child present node within

theorem not_malformed (onKey : condition.OnKey key) : ¬ condition.Malformed := by
  intro malformed
  cases onKey <;> cases malformed <;> contradiction

theorem supported (onKey : condition.OnKey key) : OperatorSet.keyLookup.contains condition.operator = true := by
  cases onKey <;> rfl

/-- What is allowed is among the texts of the leftmost leaf. -/
theorem mem_leftmost (onKey : condition.OnKey key) {text : String} (allowed : condition.allows text = true) :
    text ∈ condition.leftmost := by
  induction onKey with
  | equals other => exact List.contains_iff_mem.mp allowed
  | isIn texts hint => exact List.contains_iff_mem.mp allowed
  | @all children some each ih =>
    cases children with
    | nil => contradiction
    | cons child rest =>
      have first : child.allows text = true := (Bool.and_eq_true_iff.mp allowed).1
      exact ih child (List.mem_cons_self ..) first

/-- A lookup has just the keys that are allowed. -/
theorem contains_lookup (onKey : condition.OnKey key) (text : String) :
    condition.lookup.keys.contains text = condition.allows text := by
  rw [Bool.eq_iff_iff, List.contains_iff_mem, lookup, List.mem_filter]
  constructor
  · exact And.right
  · intro allowed
    exact ⟨onKey.mem_leftmost allowed, allowed⟩

end OnKey

end Condition

namespace PredicateBuilder

/-- Conditions that have images one by one have them one after another. -/
theorem images_of_each {builder : PredicateBuilder P} {good : Condition → P → Prop} {children : List Condition}
    (each : ∀ child ∈ children, ∃ calls part, builder.Image child calls part ∧ good child part) :
    ∃ calls parts, builder.Images children calls parts ∧ List.Forall₂ good children parts := by
  induction children with
  | nil => exact ⟨[], [], .nil, .nil⟩
  | cons child rest ih =>
    obtain ⟨calls, part, image, fits⟩ := each child (List.mem_cons_self ..)
    obtain ⟨more, parts, images, fit⟩ := ih fun other member => each other (List.mem_cons_of_mem child member)
    exact ⟨calls ++ more, part :: parts, .cons image images, .cons fits fit⟩

/-- The predicate of a condition that passes the checks is its image. -/
theorem predicateFor_of_image {builder : PredicateBuilder P} {condition : Condition} {calls : List (BuilderCall P)}
    {predicate : P} (formed : ∀ node ∈ condition.nodes, ¬ node.Malformed)
    (supported : ∀ node ∈ condition.nodes, builder.supported.contains node.operator = true)
    (image : builder.Image condition calls predicate) :
    builder.predicateFor (some condition) = .ok (some predicate) := by
  rw [predicateFor, effect_build_of_passed (Condition.validate_of_formed formed) (unsupported?_of_supported supported),
    effect_translate_of_image [] image]
  rfl

/-- The predicate of a well formed leaf is what the builder makes of the leaf. -/
theorem predicateFor_of_leaf {builder : PredicateBuilder P} {operator : Operator} {field : Field} {predicate : P}
    (formed : ¬ (Condition.leaf operator field).Malformed) (supported : builder.supported.contains operator = true)
    (answered : builder.leaf operator field = .ok predicate) :
    builder.predicateFor (some (.leaf operator field)) = .ok (some predicate) := by
  refine predicateFor_of_image ?_ ?_ (.leaf answered)
  · intro node member
    rwa [List.mem_singleton.mp member]
  · intro node member
    rwa [List.mem_singleton.mp member]

end PredicateBuilder

namespace KeyLookup

theorem keyTexts_texts (operator : Operator) (texts : List String) :
    keyTexts operator (texts.map .text) = .ok texts := by
  induction texts with
  | nil => rfl
  | cons text rest ih =>
    rw [List.map_cons, keyTexts, ih]
    rfl

/-- The keys that the lookups of conditions have in common are those that all the conditions allow. -/
theorem common_lookups {key : String} {children : List Condition} (some : children ≠ [])
    (each : ∀ child ∈ children, child.OnKey key) :
    common (children.map Condition.lookup) = (Condition.all children).lookup := by
  cases children with
  | nil => contradiction
  | cons child rest =>
    have others (text : String) : ((rest.map Condition.lookup).all fun lookup => lookup.keys.contains text) =
        Condition.allowsAll text rest := by
      rw [Condition.allowsAll_eq_all, List.all_map, Bool.eq_iff_iff, List.all_eq_true, List.all_eq_true]
      refine forall₂_congr fun other member => ?_
      rw [Function.comp_apply, (each other (List.mem_cons_of_mem child member)).contains_lookup]
    rw [List.map_cons, common, Condition.lookup, Condition.lookup, List.filter_filter, KeyLookup.mk.injEq]
    refine List.filter_congr fun text _ => ?_
    rw [others, Condition.allows, Condition.allowsAll, Bool.and_comm]

/-- A key lookup builder makes the lookup of a condition on the key alone. -/
theorem image_of_onKey (name : String) {key : String} {condition : Condition} (onKey : condition.OnKey key) :
    ∃ calls, (builder name key).Image condition calls condition.lookup := by
  induction onKey with
  | equals text =>
    have allowed : (Condition.leaf .equals ⟨key, .text text⟩).lookup = ⟨[text]⟩ := by
      simp [Condition.lookup, Condition.leftmost, Condition.allows, Value.texts, Value.text, Value.asText?]
    rw [allowed]
    exact ⟨_, .leaf (if_pos rfl)⟩
  | isIn texts hint =>
    have allowed : (Condition.leaf .isIn ⟨key, .list (texts.map .text) hint⟩).lookup = ⟨texts⟩ := by
      simp [Condition.lookup, Condition.leftmost, Condition.allows, Value.texts_list]
    have found : ofLeaf name key .isIn ⟨key, .list (texts.map .text) hint⟩ = .ok ⟨texts⟩ := by
      simp only [ofLeaf, if_pos, keyTexts_texts]
      rfl
    rw [allowed]
    exact ⟨_, .leaf found⟩
  | @all children some each ih =>
    have parts : ∀ child ∈ children, ∃ calls part, (builder name key).Image child calls part ∧ child.lookup = part := by
      intro child member
      obtain ⟨calls, image⟩ := ih child member
      exact ⟨calls, child.lookup, image, rfl⟩
    obtain ⟨calls, parts, images, fit⟩ := PredicateBuilder.images_of_each parts
    have same : children.map Condition.lookup = parts := by
      rw [← List.forall₂_eq_eq_eq]
      exact List.forall₂_map_left_iff.mpr fit
    subst same
    exact ⟨_, .all images (congrArg Except.ok (common_lookups some each))⟩

end KeyLookup

namespace Converter

variable {converter : Converter}

/-- Texts that no writer takes are written as they are. -/
theorem nativeOf_text (unwritten : converter.registry.writersOf (.scalar .text) = []) (text : String) :
    converter.nativeOf (.text text) = .ok (.scalar (.text text)) := by
  have writers : converter.registry.writersOf (Value.scalar .text (some text)).kind = [] := unwritten
  have none : converter.registry.write? (.scalar .text (some text)) = none := by
    simp only [Registry.write?, writers]
    rfl
  rw [Value.text, nativeOf_of_isLeaf rfl, writeScalar_of_unwritten none (by simp [Value.kind])]
  rfl

theorem nativeOf_texts (unwritten : converter.registry.writersOf (.scalar .text) = []) (texts : List String)
    (hint : Value) :
    converter.nativeOf (.list (texts.map .text) hint) = .ok (.list (texts.map fun text => .scalar (.text text))) := by
  have each : ∀ item ∈ texts.map fun text => Native.scalar (.text text),
      converter.nativeOf item.opaqueValue = .ok item := by
    intro item member
    obtain ⟨text, _, rfl⟩ := List.mem_map.mp member
    exact nativeOf_text unwritten text
  have items := nativeOfItems_map each
  rw [List.map_map] at items
  rw [nativeOf]
  exact congrArg (Except.map Native.list) items

end Converter

namespace Filter

/-- A filter holds of the rows whose keys a condition allows. -/
def HoldsAs (key : String) (filter : Filter) (condition : Condition) : Prop :=
  ∀ row text, Named.find? row key = some (.scalar (.text text)) → filter.holds row = condition.allows text

/-- A filter builder makes a filter of a condition on the key alone that holds of the keys that the condition allows. -/
theorem image_of_onKey (name : String) {converter : Converter}
    (unwritten : converter.registry.writersOf (.scalar .text) = []) {key : String} {condition : Condition}
    (onKey : condition.OnKey key) :
    ∃ calls filter, (builder name converter .full).Image condition calls filter ∧
      filter.HoldsAs key condition := by
  induction onKey with
  | equals text =>
    refine ⟨_, .leaf .equals key (.text text), .leaf ?_, ?_⟩
    · have leaf : (builder name converter .full).leaf .equals ⟨key, .text text⟩ =
          (converter.nativeOf (.text text)).map fun native => .leaf .equals key native.opaqueValue := rfl
      rw [leaf, Converter.nativeOf_text unwritten]
      rfl
    · intro row shown found
      rw [holds, found, Condition.allows, Value.texts_text]
      have compared : compares .equals (Native.scalar (.text shown)).opaqueValue (.text text) =
          (Value.text shown).equals (.text text) := rfl
      simp [compared, Value.equals_text]
  | isIn texts hint =>
    refine ⟨_, .leaf .isIn key (.list (texts.map .text) .null), .leaf ?_, ?_⟩
    · have leaf : (builder name converter .full).leaf .isIn ⟨key, .list (texts.map .text) hint⟩ =
          (converter.nativeOf (.list (texts.map .text) hint)).map fun native => .leaf .isIn key native.opaqueValue :=
        rfl
      rw [leaf, Converter.nativeOf_texts unwritten, Except.map, Native.opaqueValue, Native.opaqueItems_eq_map,
        List.map_map]
      rfl
    · intro row shown found
      rw [holds, found, Condition.allows, Value.texts_list]
      have compared : compares .isIn (Native.scalar (.text shown)).opaqueValue (.list (texts.map .text) .null) =
          (texts.map .text).any (Value.text shown).equals := rfl
      have equal : (Value.text shown).equals ∘ Value.text = fun text => shown == text :=
        funext (Value.equals_text shown)
      simp only [compared, List.any_map, equal]
      exact (List.contains_eq_any_beq ..).symm
  | @all children some each ih =>
    obtain ⟨calls, parts, images, fit⟩ := PredicateBuilder.images_of_each ih
    refine ⟨_, .all parts, .all images rfl, ?_⟩
    intro row text shown
    have together : holdAll row parts = Condition.allowsAll text children := by
      clear images some each ih
      induction fit with
      | nil => rfl
      | cons first _ ih => rw [holdAll, Condition.allowsAll, first row text shown, ih]
    simpa only [holds, Condition.allows] using together

end Filter

namespace Store.Predicate

open Polystore.PredicateBuilder

variable {builder : PredicateBuilder P} {wrap : P → Predicate}
  {unwrap : Operator → List Predicate → Except Failure (List P)}

mutual

/-- A store has the image that the builder of its addressing has. -/
theorem lift_image (undoes : ∀ operator parts, unwrap operator (parts.map wrap) = .ok parts) {condition : Condition}
    {calls : List (BuilderCall P)} {predicate : P} :
    builder.Image condition calls predicate →
      ∃ calls, (lift builder wrap unwrap).Image condition calls (wrap predicate)
  | .leaf answered => ⟨_, .leaf (by simp [lift, answered, Except.map])⟩
  | .all images answered => by
    obtain ⟨calls, lifted⟩ := lift_images undoes images
    exact ⟨_, .all lifted (by simp [lift, undoes, answered])⟩
  | .any images answered => by
    obtain ⟨calls, lifted⟩ := lift_images undoes images
    exact ⟨_, .any lifted (by simp [lift, undoes, answered])⟩

theorem lift_images (undoes : ∀ operator parts, unwrap operator (parts.map wrap) = .ok parts)
    {children : List Condition} {calls : List (BuilderCall P)} {parts : List P} :
    builder.Images children calls parts →
      ∃ calls, (lift builder wrap unwrap).Images children calls (parts.map wrap)
  | .nil => ⟨[], .nil⟩
  | .cons first others => by
    obtain ⟨calls, image⟩ := lift_image undoes first
    obtain ⟨more, images⟩ := lift_images undoes others
    exact ⟨calls ++ more, .cons image images⟩

end

theorem lookups_map (operator : Operator) (parts : List KeyLookup) :
    lookups operator (parts.map .keys) = .ok parts := by
  induction parts with
  | nil => rfl
  | cons part rest ih => rw [List.map_cons, lookups, ih]; rfl

theorem filters_map (operator : Operator) (parts : List Filter) : filters operator (parts.map .filter) = .ok parts := by
  induction parts with
  | nil => rfl
  | cons part rest ih => rw [List.map_cons, filters, ih]; rfl

end Store.Predicate

end Polystore
