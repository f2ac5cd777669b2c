import Polystore.Predicate.Filter
import Polystore.Proofs.Converter.Parts
import Polystore.Proofs.Predicate.Translation

/-!
Membership in filters. A condition that asks for a value among some is built from what the list of these values is
written as, and a disjunction of equalities from what each of them is written as; both are the native forms of the
values, one after another, so that the two conditions fail together and hold of the same rows.
-/
namespace Polystore

open Polystore.Action

variable {converter : Converter}

namespace Converter

/-- Where values have no native forms together, the failure is that of the first that has none. -/
theorem exists_first_of_nativeOfItems {items : List Value} {failure : Failure}
    (fails : converter.nativeOfItems items = .error failure) :
    ∃ before refused behind, items = before ++ refused :: behind ∧
      (∀ earlier ∈ before, ∃ native, converter.nativeOf earlier = .ok native) ∧
      converter.nativeOf refused = .error failure := by
  induction items with
  | nil => cases fails
  | cons item rest ih =>
    rcases Except.of_bind_eq_error fails with failed | ⟨native, given, others⟩
    · exact ⟨[], item, rest, rfl, fun _ member => (List.not_mem_nil member).elim, failed⟩
    · rcases Except.of_bind_eq_error others with later | ⟨natives, _, gives⟩
      · obtain ⟨before, refused, behind, rfl, written, failed⟩ := ih later
        exact ⟨item :: before, refused, behind, rfl, List.forall_mem_cons.mpr ⟨⟨native, given⟩, written⟩, failed⟩
      · cases gives

end Converter

namespace Condition

/-- One of the values equals that of a field. -/
def anyEquals (name : String) (values : List Value) : Condition :=
  .any (values.map fun value => .leaf .equals ⟨name, value⟩)

theorem validateAll_equals (name : String) (values : List Value) :
    validateAll (values.map fun value => .leaf .equals ⟨name, value⟩) = .ok () := by
  induction values with
  | nil => rfl
  | cons value rest ih =>
    rw [List.map_cons, validateAll, ih]
    rfl

theorem validate_anyEquals (name : String) (first : Value) (rest : List Value) :
    (anyEquals name (first :: rest)).validate = .ok () := by
  rw [anyEquals, List.map_cons, validate, validateChildren, validateAll_equals]
  rfl

end Condition

namespace Filter

/-- What a builder of filters that knows all operators makes of a condition. -/
def built (backend : String) (converter : Converter) (condition : Condition) : Except Failure Filter :=
  (effect ((builder backend converter .full).build condition) []).1

theorem built_of_valid (backend : String) {condition : Condition} (valid : condition.validate = .ok ()) :
    built backend converter condition = (effect ((builder backend converter .full).translate condition) []).1 := by
  rw [built, PredicateBuilder.effect_build_of_passed valid (PredicateBuilder.unsupported?_of_supported fun _ _ => rfl)]

/-- Equalities are translated one by one to comparisons with the native forms of their values. -/
theorem effect_translateAll_equals (converter : Converter) (backend name : String) (values : List Value) (record : List (BuilderCall Filter)) :
    ∃ calls, effect ((builder backend converter .full).translateAll
        (values.map fun value => .leaf .equals ⟨name, value⟩)) record =
      ((converter.nativeOfItems values).map fun natives =>
        natives.map fun native => .leaf .equals name native.opaqueValue, calls) := by
  induction values generalizing record with
  | nil => exact ⟨record, rfl⟩
  | cons value rest ih =>
    have leaf : effect ((builder backend converter .full).translate (.leaf .equals ⟨name, value⟩)) record =
        ((converter.nativeOf value).map fun native => .leaf .equals name native.opaqueValue,
          record ++ [.leaf .equals ⟨name, value⟩]) := rfl
    obtain ⟨calls, others⟩ := ih (record ++ [.leaf .equals ⟨name, value⟩])
    rw [List.map_cons, PredicateBuilder.translateAll, effect_bind, leaf, Converter.nativeOfItems]
    cases converter.nativeOf value with
    | error failure => exact ⟨_, rfl⟩
    | ok native =>
      refine ⟨calls, ?_⟩
      rw [Except.map, Except.ok_bind]
      simp only [effect_bind, others]
      cases converter.nativeOfItems rest <;> rfl

/-- The filter of a membership has the native forms of the values in one list. -/
theorem built_isIn (backend name : String) (values : List Value) (hint : Value) :
    built backend converter (.leaf .isIn ⟨name, .list values hint⟩) =
      (converter.nativeOfItems values).map fun natives =>
        .leaf .isIn name (.list (natives.map Native.opaqueValue) .null) := by
  have leaf : (effect ((builder backend converter .full).translate (.leaf .isIn ⟨name, .list values hint⟩)) []).1 =
      (converter.nativeOf (.list values hint)).map fun native => .leaf .isIn name native.opaqueValue := rfl
  rw [built_of_valid backend rfl, leaf, Converter.nativeOf]
  cases converter.nativeOfItems values with
  | error failure => rfl
  | ok natives => simp only [Except.map, Native.opaqueValue, Native.opaqueItems_eq_map]

/-- The filter of a disjunction of equalities has a leaf for the native form of each value. -/
theorem built_anyEquals (backend name : String) (first : Value) (rest : List Value) :
    built backend converter (.anyEquals name (first :: rest)) =
      (converter.nativeOfItems (first :: rest)).map fun natives =>
        .any (natives.map fun native => .leaf .equals name native.opaqueValue) := by
  obtain ⟨calls, translated⟩ := effect_translateAll_equals converter backend name (first :: rest) []
  rw [built_of_valid backend (Condition.validate_anyEquals name first rest), Condition.anyEquals,
    PredicateBuilder.translate, effect_bind, translated]
  cases converter.nativeOfItems (first :: rest) <;> rfl

theorem holdAny_eq_any (row : Row) (children : List Filter) : holdAny row children = children.any (holds row) := by
  induction children with
  | nil => rfl
  | cons child rest ih => rw [holdAny, ih, List.any_cons]

/-- A membership holds where one of the equalities does. -/
theorem holds_isIn (row : Row) (name : String) (values : List Value) (hint : Value) :
    (Filter.leaf .isIn name (.list values hint)).holds row =
      values.any fun value => (Filter.leaf .equals name value).holds row := by
  simp only [holds]
  cases Named.find? row name with
  | none => simp
  | some actual => rfl

/-- What a row holds under a name equals one of some native values. -/
def Among (row : Row) (name : String) (natives : List Native) : Prop :=
  ∃ actual, Named.find? row name = some actual ∧
    ∃ native ∈ natives, actual.opaqueValue.equals native.opaqueValue = true

theorem holds_isIn_iff {row : Row} {name : String} {natives : List Native} {hint : Value} :
    (Filter.leaf .isIn name (.list (natives.map Native.opaqueValue) hint)).holds row = true ↔
      Among row name natives := by
  rw [holds, Among]
  cases Named.find? row name with
  | none => simp
  | some actual => simp [compares, Value.asList?]

/-- To be among values is to equal one of them, but that a disjunction of none is refused. -/
theorem membership_is_disjunction (converter : Converter) (backend name : String) (hint : Value) :
    (∀ first rest,
      (∃ member either natives, built backend converter (.leaf .isIn ⟨name, .list (first :: rest) hint⟩) = .ok member ∧
        built backend converter (.anyEquals name (first :: rest)) = .ok either ∧
        List.Forall₂ (fun value native => converter.nativeOf value = .ok native) (first :: rest) natives ∧
        ∀ row, member.holds row = either.holds row ∧ (member.holds row = true ↔ Among row name natives)) ∨
      ∃ before refused behind failure, first :: rest = before ++ refused :: behind ∧
        (∀ earlier ∈ before, ∃ native, converter.nativeOf earlier = .ok native) ∧
        converter.nativeOf refused = .error failure ∧
        built backend converter (.leaf .isIn ⟨name, .list (first :: rest) hint⟩) = .error failure ∧
        built backend converter (.anyEquals name (first :: rest)) = .error failure) ∧
    (∃ member, built backend converter (.leaf .isIn ⟨name, .list [] hint⟩) = .ok member ∧
      ∀ row, member.holds row = false) ∧
    ∃ detail, built backend converter (.anyEquals name []) = .error (.ofFault (.conditionShape .any detail)) := by
  refine ⟨fun first rest => ?_, ?_, _, rfl⟩
  · rw [built_isIn, built_anyEquals]
    cases written : converter.nativeOfItems (first :: rest) with
    | error failure =>
      obtain ⟨before, refused, behind, split, earlier, failed⟩ := Converter.exists_first_of_nativeOfItems written
      exact .inr ⟨before, refused, behind, failure, split, earlier, failed, rfl, rfl⟩
    | ok natives =>
      refine .inl ⟨_, _, natives, rfl, rfl, Converter.nativeOfItems_eq_ok_iff.mp written, fun row => ⟨?_, holds_isIn_iff⟩⟩
      rw [holds_isIn, holds, holdAny_eq_any, List.any_map, List.any_map]
      rfl
  · refine ⟨.leaf .isIn name (.list [] .null), built_isIn backend name [] hint, fun row => ?_⟩
    rw [holds_isIn, List.any_nil]

/-- A document of one date is among two values, in a row that has it as a list of one map. -/
theorem document_is_member :
    let converter : Converter := { registry := .standard }
    let day : Value := .documents [⟨"a", .scalar .date (some ⟨2024, 1, 1, by decide⟩)⟩]
    let row : Row := [⟨"f", .list [.map [⟨"a", .scalar (.text "2024-01-01")⟩]]⟩]
    ∃ member either, built "memory" converter (.leaf .isIn ⟨"f", .list [.nullMap, day] .null⟩) = .ok member ∧
      built "memory" converter (.anyEquals "f" [.nullMap, day]) = .ok either ∧
      member.holds row = true ∧ either.holds row = true := by
  intro converter day row
  obtain ⟨agree, _⟩ := membership_is_disjunction converter "memory" "f" .null
  have made : converter.nativeOfItems [.nullMap, day] =
      .ok [.scalar .nullMap, .list [.map [⟨"a", .scalar (.text "2024-01-01")⟩]]] := rfl
  rcases agree .nullMap [day] with ⟨member, either, natives, isMember, isEither, written, same⟩ | refused
  · have given := Converter.nativeOfItems_eq_ok_iff.mpr written
    cases made.symm.trans given
    have found : member.holds row = true :=
      (same row).2.mpr ⟨_, rfl, _, List.mem_cons_of_mem _ (List.mem_singleton_self _), by decide +kernel⟩
    exact ⟨member, either, isMember, isEither, found, (same row).1.symm.trans found⟩
  · obtain ⟨_, _, _, failure, _, _, _, fails, _⟩ := refused
    rw [built_isIn, made] at fails
    cases fails

end Filter

end Polystore
