import Polystore.Proofs.Converter.Ordered
import Polystore.Proofs.Named
import Polystore.Proofs.Store.Finding
import Polystore.Proofs.Store.SortedReads

/-!
Reads by values that are stored as texts. Where the writers make texts of the dates, times or identifiers of a field,
ranges and equality select the rows that they would select by the values themselves, and a sort arranges rows as it
would by the values themselves.
-/
namespace Polystore

/-- Whether an operator compares what a field holds with a value by their order. -/
def Operator.isOrdering (operator : Operator) : Bool := operator = .equals || operator.isRange

theorem Filter.compares_of_compare? {operator : Operator} (ordering : operator.isOrdering = true)
    {a b c d : Value} (present : a.isNull = false) (presentC : c.isNull = false)
    (same : a.compare? b = c.compare? d) (ordered : (c.compare? d).isSome = true) :
    compares operator a b = compares operator c d := by
  obtain ⟨order, compared⟩ := Option.isSome_iff_exists.mp ordered
  cases operator with
  | equals => simp [compares, Value.equals, present, presentC, same, compared]
  | greater | greaterOrEqual | lesser | lesserOrEqual => simp [compares, same]
  | isIn | like | all | any => cases ordering

/-- No null is a scalar that is there. -/
theorem Value.same_of_isNull {a : Value} (isNull : a.isNull = true) {type : ScalarType} (value : type.Carrier) :
    a.same (.scalar type (some value)) = false := by
  cases a with
  | scalar other held =>
    cases held with
    | some held => cases isNull
    | none =>
      rw [same]
      split
      · rename_i same
        cases same
        rfl
      · rfl
  | null | nullList | nullMap => simp [same]
  | _ => cases isNull

/-- A null is in no order with a scalar, and is not equal to one. -/
theorem Filter.compares_of_isNull {operator : Operator} (ordering : operator.isOrdering = true) {a : Value}
    (isNull : a.isNull = true) (type : ScalarType) (value : type.Carrier) :
    compares operator a (.scalar type (some value)) = false := by
  have unordered := Value.compare?_of_isNull isNull (.scalar type (some value))
  cases operator with
  | equals =>
    have present : (Value.scalar type (some value)).isNull = false := rfl
    rw [compares, Value.equals, present, Bool.and_false, unordered]
    exact Value.same_of_isNull isNull value
  | greater | greaterOrEqual | lesser | lesserOrEqual => simp [compares, unordered]
  | isIn | like | all | any => cases ordering

namespace Store

/-- What a field held before it was written, and what it holds: nothing, a null, or what is written for one of some
scalars of a type. -/
inductive WrittenAs (converter : Converter) (type : ScalarType) (among : type.Carrier → Prop) :
    Option Value → Option Value → Prop
  | missing : WrittenAs converter type among none none
  | null {value : Value} {native : Native} (isNull : value.isNull = true)
      (written : converter.nativeOf value = .ok native) :
      WrittenAs converter type among (some value) (some native.opaqueValue)
  | scalar {value : type.Carrier} {native : Native} (member : among value)
      (written : converter.nativeOf (.scalar type (some value)) = .ok native) :
      WrittenAs converter type among (some (.scalar type (some value))) (some native.opaqueValue)

section Written

variable {converter : Converter} {type : ScalarType} {among : type.Carrier → Prop}

/-- Nulls are stored as they are. -/
theorem opaqueValue_of_isNull (standard : converter.registry = .standard) {value : Value} (isNull : value.isNull = true)
    {native : Native} (written : converter.nativeOf value = .ok native) : native.opaqueValue = value := by
  have unwritten : converter.registry.write? value = none := by
    rw [standard, Registry.standard_write?_of_isNull isNull]
  have ordinary : value.kind ≠ .custom := by
    cases value with
    | custom => cases isNull
    | _ => exact Kind.noConfusion
  rw [Converter.nativeOf_of_isLeaf (Value.isLeaf_of_isNull isNull),
    Converter.writeScalar_of_unwritten unwritten ordinary] at written
  cases written
  rfl

/-- What is written for two scalars is in the order of the scalars. -/
theorem compare?_of_written (ordered : converter.WritesInOrder type among) {a b : type.Carrier} (memberA : among a)
    (memberB : among b) {first second : Native}
    (writtenA : converter.nativeOf (.scalar type (some a)) = .ok first)
    (writtenB : converter.nativeOf (.scalar type (some b)) = .ok second) :
    first.opaqueValue.isNull = false ∧ second.opaqueValue.isNull = false ∧
      first.opaqueValue.compare? second.opaqueValue =
        (Value.scalar type (some a)).compare? (.scalar type (some b)) ∧
      ((Value.scalar type (some a)).compare? (.scalar type (some b))).isSome = true := by
  obtain ⟨s, t, textA, textB, compared⟩ := ordered.texts a b memberA memberB
  obtain rfl := Except.ok.inj (textA.symm.trans writtenA)
  obtain rfl := Except.ok.inj (textB.symm.trans writtenB)
  rw [Value.compare?_scalars ordered.isOrdered, ← compared]
  exact ⟨rfl, rfl, rfl, rfl⟩

/-- A condition is met by what is written for a value just when it is met by the value. -/
theorem WrittenAs.compares (standard : converter.registry = .standard)
    (ordered : converter.WritesInOrder type among) {operator : Operator} (ordering : operator.isOrdering = true)
    {original stored : Option Value} (writtenAs : WrittenAs converter type among original stored)
    {bound : type.Carrier} (member : among bound) {native : Native}
    (written : converter.nativeOf (.scalar type (some bound)) = .ok native) :
    stored.any (fun value => Filter.compares operator value native.opaqueValue) =
      original.any fun value => Filter.compares operator value (.scalar type (some bound)) := by
  cases writtenAs with
  | missing => rfl
  | @null value held isNull heldAs =>
    obtain ⟨_, t, _, text, _⟩ := ordered.texts bound bound member member
    obtain rfl := Except.ok.inj (text.symm.trans written)
    rw [opaqueValue_of_isNull standard isNull heldAs]
    exact (Filter.compares_of_isNull ordering isNull .text t).trans
      (Filter.compares_of_isNull ordering isNull type bound).symm
  | scalar memberA heldAs =>
    obtain ⟨present, _, same, isSome⟩ := compare?_of_written ordered memberA member heldAs written
    exact Filter.compares_of_compare? ordering present rfl same isSome

/-- Cells are in the order that they had before they were written. -/
theorem WrittenAs.compareCells (standard : converter.registry = .standard)
    (ordered : converter.WritesInOrder type among) {originalA storedA originalB storedB : Option Value}
    (writtenA : WrittenAs converter type among originalA storedA)
    (writtenB : WrittenAs converter type among originalB storedB) :
    compareCells storedA storedB = Store.compareCells originalA originalB := by
  have presence_eq {original stored : Option Value} (written : WrittenAs converter type among original stored) :
      presence stored = presence original := by
    cases written with
    | missing => rfl
    | null isNull heldAs => rw [opaqueValue_of_isNull standard isNull heldAs]
    | scalar member heldAs =>
      obtain ⟨present, _, _, _⟩ := compare?_of_written ordered member member heldAs heldAs
      rw [presence_of_value present, presence_of_value rfl]
  have values_eq : compareValues? storedA storedB = compareValues? originalA originalB := by
    cases writtenA with
    | missing => rfl
    | null isNull heldAs =>
      rw [opaqueValue_of_isNull standard isNull heldAs]
      cases writtenB with
      | missing => rfl
      | null isNullB heldAsB => rw [opaqueValue_of_isNull standard isNullB heldAsB]
      | scalar memberB heldAsB =>
        exact (Value.compare?_of_isNull isNull _).trans (Value.compare?_of_isNull isNull _).symm
    | scalar memberA heldAsA =>
      cases writtenB with
      | missing => rfl
      | null isNull heldAs =>
        rw [opaqueValue_of_isNull standard isNull heldAs, compareValues?_of_isNull isNull,
          compareValues?_of_isNull isNull]
      | scalar memberB heldAsB => exact (compare?_of_written ordered memberA memberB heldAsA heldAsB).2.2.1
  rw [compareCells_eq, compareCells_eq, presence_eq writtenA, presence_eq writtenB, values_eq]

end Written

end Store

/-- The row of an entity whose values are kept as they are given. -/
def Entity.asGiven (entity : Entity) : Row := Named.ofList (entity.fields.map (Named.map .scalar))

namespace Store

theorem cell_asGiven (entity : Entity) (name : String) :
    cell entity.asGiven name = (entity.findAll name).getLast?.map Named.value := by
  have found : Named.find? entity.asGiven name =
      (entity.findAll name).getLast?.map fun field => .scalar field.value := by
    rw [Entity.asGiven, Named.find?_ofList, List.filter_map, List.getLast?_map, Option.map_map]
    rfl
  rw [cell, found, Option.map_map]
  rfl

namespace Service

open Polystore.Action

/-- Rows that hold nothing in a field but what is written for the nulls and the scalars of one type that entities give
it. -/
structure Holds (service : Service) (type : ScalarType) (given : StoredRow → Entity) (rows : List StoredRow)
    (name : String) : Prop where
  noKey : name ≠ service.settings.key
  noRevision : name ≠ service.settings.revision
  scalars : ∀ row ∈ rows, ∀ value, cell (given row).asGiven name = some value →
    value.isNull = true ∨ ∃ scalar : type.Carrier, type.InEra scalar ∧ value = .scalar type (some scalar)

/-- Rows that hold nothing in a field but what is written for the nulls and some scalars of one type that entities give
it. -/
structure HoldsAmong (service : Service) (type : ScalarType) (among : type.Carrier → Prop)
    (given : StoredRow → Entity) (rows : List StoredRow) (name : String) : Prop where
  noKey : name ≠ service.settings.key
  noRevision : name ≠ service.settings.revision
  scalars : ∀ row ∈ rows, ∀ value, cell (given row).asGiven name = some value →
    value.isNull = true ∨ ∃ scalar : type.Carrier, among scalar ∧ value = .scalar type (some scalar)

theorem Holds.among {service : Service} {type : ScalarType} {given : StoredRow → Entity} {rows : List StoredRow}
    {name : String} (holds : service.Holds type given rows name) :
    service.HoldsAmong type type.InEra given rows name :=
  ⟨holds.noKey, holds.noRevision, holds.scalars⟩

/-- Rows that entities are written as. -/
def WrittenFrom (service : Service) (given : StoredRow → Entity) (rows : List StoredRow) : Prop :=
  ∀ row ∈ rows, service.converter.written (given row) [service.settings.key, service.settings.revision] = .ok row.body

section Given

variable {service : Service} {type : ScalarType} {among : type.Carrier → Prop} {given : StoredRow → Entity}
  {rows : List StoredRow} {name : String}

theorem HoldsAmong.writtenAs (holds : service.HoldsAmong type among given rows name)
    (written : service.WrittenFrom given rows) {row : StoredRow} (member : row ∈ rows) :
    WrittenAs service.converter type among (cell (given row).asGiven name) (cell (service.view row) name) := by
  have unreserved : name ∉ [service.settings.key, service.settings.revision] := by
    simp [holds.noKey, holds.noRevision]
  have body : cell (service.view row) name = (Named.find? row.body name).map Native.opaqueValue := by
    rw [cell, service.find?_view_field holds.noKey holds.noRevision]
  have scalars := holds.scalars row member
  rw [cell_asGiven] at scalars ⊢
  rw [body]
  cases last : ((given row).findAll name).getLast? with
  | none =>
    rw [Converter.find?_written_of_absent (written row member) (List.getLast?_eq_none_iff.mp last)]
    exact .missing
  | some field =>
    obtain ⟨native, writes, found⟩ := Converter.find?_written (written row member) unreserved last
    rw [last, Option.map_some] at scalars
    rw [found, Option.map_some, Option.map_some]
    rcases scalars field.value rfl with null | ⟨scalar, among, same⟩
    · exact .null null writes
    · rw [same] at writes ⊢
      exact .scalar among writes

theorem holds_leaf (row : Row) (operator : Operator) (name : String) (value : Value) :
    Filter.holds row (.leaf operator name value) =
      (cell row name).any fun held => Filter.compares operator held value := by
  rw [Filter.holds, cell]
  cases Named.find? row name with
  | none => rfl
  | some native => rfl

/-- An ordering condition on a scalar is well formed. -/
theorem formed_ordering {operator : Operator} (ordering : operator.isOrdering = true) (name : String)
    {type : ScalarType} (bound : type.Carrier) :
    ¬ (Condition.leaf operator ⟨name, .scalar type (some bound)⟩).Malformed := by
  intro malformed
  cases malformed with
  | combinator _ combines =>
    cases operator with
    | all | any => cases ordering
    | _ => cases combines
  | listless => cases ordering
  | textless => cases ordering
  | boundless _ boundless => rcases boundless with null | compound <;> contradiction

/-- Ranges and equality pick the rows that they would pick by the values that entities gave. -/
theorem HoldsAmong.picked (standard : service.converter.registry = .standard)
    (document : service.settings.addressing = .document) (ordered : service.converter.WritesInOrder type among)
    (written : service.WrittenFrom given rows) (holds : service.HoldsAmong type among given rows name)
    {operator : Operator} (ordering : operator.isOrdering = true) {bound : type.Carrier} (member : among bound) :
    ∃ predicate, service.predicateFor (some (.leaf operator ⟨name, .scalar type (some bound)⟩)) = .ok predicate ∧
      service.picked predicate rows = rows.filter fun row => (cell (given row).asGiven name).any fun value =>
        Filter.compares operator value (.scalar type (some bound)) := by
  obtain ⟨text, _, writes, _, _⟩ := ordered.texts bound bound member member
  have builder : service.builder =
      Predicate.lift (Filter.builder driverName service.converter .full) .filter Predicate.filters := by
    rw [Service.builder, Predicate.builder, document]
  have leaf : operator.isCombinator = false := by cases operator <;> first | rfl | cases ordering
  refine ⟨some (.filter (.leaf operator name (.text text))), ?_, ?_⟩
  · rw [predicateFor, builder]
    refine PredicateBuilder.predicateFor_of_leaf (formed_ordering ordering name bound) rfl ?_
    simp [Predicate.lift, Filter.builder, Filter.ofLeaf, leaf, writes, Except.map, Native.opaqueValue]
  · refine List.filter_congr fun row inRows => ?_
    rw [holds_leaf]
    exact (holds.writtenAs written inRows).compares standard ordered ordering member writes

/-- Rows are in the order that the values that entities gave would put them in. -/
theorem compareRows_among (standard : service.converter.registry = .standard)
    (written : service.WrittenFrom given rows) {sorts : List SortKey}
    (holds : ∀ sort ∈ sorts, ∃ (type : ScalarType) (among : type.Carrier → Prop),
      service.converter.WritesInOrder type among ∧ service.HoldsAmong type among given rows sort.name)
    {a b : StoredRow} (inA : a ∈ rows) (inB : b ∈ rows) :
    compareRows sorts (service.view a) (service.view b) =
      compareRows sorts (given a).asGiven (given b).asGiven := by
  induction sorts with
  | nil => rfl
  | cons sort rest ih =>
    obtain ⟨⟨type, among, ordered, column⟩, others⟩ := List.forall_mem_cons.mp holds
    have cells := (column.writtenAs written inA).compareCells standard ordered (column.writtenAs written inB)
    rw [compareRows_cons, compareRows_cons, ih others, compareColumn, compareColumn, cells]

theorem picked_by_given (standard : service.converter.registry = .standard)
    (document : service.settings.addressing = .document) (ordered : type.writesInOrder = true)
    (written : service.WrittenFrom given rows) (holds : service.Holds type given rows name) {operator : Operator}
    (ordering : operator.isOrdering = true) {bound : type.Carrier} (era : type.InEra bound) :
    ∃ predicate, service.predicateFor (some (.leaf operator ⟨name, .scalar type (some bound)⟩)) = .ok predicate ∧
      service.picked predicate rows = rows.filter fun row => (cell (given row).asGiven name).any fun value =>
        Filter.compares operator value (.scalar type (some bound)) :=
  holds.among.picked standard document (Converter.writesInOrder_inEra standard ordered) written ordering era

theorem compareRows_given (standard : service.converter.registry = .standard)
    (written : service.WrittenFrom given rows) {sorts : List SortKey}
    (holds : ∀ sort ∈ sorts, ∃ type : ScalarType, type.writesInOrder = true ∧ service.Holds type given rows sort.name)
    {a b : StoredRow} (inA : a ∈ rows) (inB : b ∈ rows) :
    compareRows sorts (service.view a) (service.view b) =
      compareRows sorts (given a).asGiven (given b).asGiven := by
  refine compareRows_among standard written (fun sort member => ?_) inA inB
  obtain ⟨type, ordered, column⟩ := holds sort member
  exact ⟨type, type.InEra, Converter.writesInOrder_inEra standard ordered, column.among⟩

end Given

/-- Texts of dates, times, timestamps and identifiers stand to one another as the values do, so that conditions and
sorts go by the values that were given. -/
theorem reads_go_by_given_values (service : Service) (standard : service.converter.registry = .standard) :
    (∀ type : ScalarType, type.writesInOrder = true → ∀ a b : type.Carrier, type.InEra a → type.InEra b →
      ∃ s t : String, service.converter.nativeOf (.scalar type (some a)) = .ok (.scalar (.text s)) ∧
        service.converter.nativeOf (.scalar type (some b)) = .ok (.scalar (.text t)) ∧
        (Value.text s).compare? (.text t) = (Value.scalar type (some a)).compare? (.scalar type (some b)) ∧
        ((Value.scalar type (some a)).compare? (.scalar type (some b)) = some .eq → s = t) ∧
        ((Value.scalar type (some a)).compare? (.scalar type (some b)) = some .lt → s.toList < t.toList)) ∧
    ∀ (store : Store) (collection : String) (given : StoredRow → Entity),
      store.isClosed = false → DistinctKeys (store.rowsOf collection) → Text.isAllBlank collection = false →
      let rows := live (store.rowsOf collection) store.now
      service.WrittenFrom given rows →
      (service.settings.addressing = .document → ∀ (type : ScalarType) (name : String) (operator : Operator)
        (bound : type.Carrier), type.writesInOrder = true → service.Holds type given rows name →
          operator.isOrdering = true → type.InEra bound →
          ∃ predicate,
            service.predicateFor (some (.leaf operator ⟨name, .scalar type (some bound)⟩)) = .ok predicate ∧
            service.picked predicate rows = rows.filter fun row => (cell (given row).asGiven name).any fun value =>
              Filter.compares operator value (.scalar type (some bound))) ∧
      ∀ (query : Query) (predicate : Option Predicate), query.collection = collection →
        service.predicateFor query.condition = .ok predicate →
        (∀ sort ∈ query.sorts, ∃ type : ScalarType, type.writesInOrder = true ∧
          service.Holds type given rows sort.name) →
        let arranged := sorted (fun a b => compareRows query.sorts (given a).asGiven (given b).asGiven)
          (service.picked predicate rows)
        effect (service.selectAll query) store =
          (.ok (((arranged.drop (query.skip.getD 0)).take (min (query.limit.getD wordMax) wordMax)).map
            (service.shown query)), store) := by
  constructor
  · intro type ordered a b eraA eraB
    obtain ⟨s, t, writesA, writesB, compared⟩ := Converter.exists_texts standard ordered eraA eraB
    have orders := ScalarType.isOrdered_of_writesInOrder ordered
    have texts : (Value.text s).compare? (.text t) = some (compareText s t) := rfl
    refine ⟨s, t, writesA, writesB, ?_, ?_, ?_⟩
    · rw [texts, compared, Value.compare?_scalars orders]
    · rw [Value.compare?_scalars orders, ← compared, Option.some.injEq]
      intro equal
      exact String.toList_inj.mp (Std.LawfulEqCmp.eq_of_compare equal)
    · rw [Value.compare?_scalars orders, ← compared, Option.some.injEq]
      exact (compare_chars_eq_lt_iff s.toList t.toList).mp
  · intro store collection given isOpen distinct named rows written
    constructor
    · intro document type name operator bound ordered holds ordering era
      exact picked_by_given standard document ordered written holds ordering era
    · intro query predicate here accepted holds arranged
      subst here
      have arranged_eq : sorted (fun a b => compareRows query.sorts (service.view a) (service.view b))
          (service.picked predicate rows) = arranged := by
        apply sorted_congr
        intro a pickedA b pickedB
        exact compareRows_given standard written holds (mem_of_mem_picked pickedA) (mem_of_mem_picked pickedB)
      have parts := service.reading_eq query predicate rows
      rw [arranged_eq] at parts
      rw [service.effect_selectAll isOpen distinct named accepted, parts]

/-- Half a second is behind 45 hundredths of it, though its digits are fewer. -/
theorem subseconds_are_in_order :
    let tenths : Time := ⟨10, 0, 0, 500000000, by decide⟩
    let hundredths : Time := ⟨10, 0, 0, 450000000, by decide⟩
    let given (row : StoredRow) : Entity :=
      if row.key = "a" then ⟨"s", [⟨"t", .scalar .time (some hundredths)⟩]⟩
      else if row.key = "b" then ⟨"s", [⟨"t", .scalar .time (some tenths)⟩]⟩
      else ⟨"s", [⟨"t", .null⟩]⟩
    let row (key : String) (value : Value) : StoredRow := ⟨key, .text key, [⟨"t", .scalar value⟩], 1, none⟩
    let rows := [row "a" (.text hundredths.storedText), row "b" (.text tenths.storedText), row "c" .null]
    let service : Service := { settings := {}, converter := { registry := .standard } }
    let store : Store := { collections := [⟨"s", rows⟩] }
    let query : Query :=
      { collection := "s", sorts := [⟨"t", .descending⟩],
        condition := some (.leaf .greaterOrEqual ⟨"t", .scalar .time (some hundredths)⟩) }
    hundredths.storedText = "10:00:00.45" ∧ tenths.storedText = "10:00:00.5" ∧ service.WrittenFrom given rows ∧
      ∃ found, effect (service.selectAll query) store = (.ok found, store) ∧
        found.map (fun entity => (entity.find? "_id").bind fun field => field.value.asText?) =
          [some "b", some "a"] := by
  intro tenths hundredths given row rows service store query
  have written : service.WrittenFrom given rows := by
    intro row member
    simp only [rows, List.mem_cons, List.not_mem_nil, or_false] at member
    rcases member with rfl | rfl | rfl
    · rfl
    · rfl
    · rfl
  have holds : service.Holds .time given rows "t" := by
    refine ⟨by decide, by decide, ?_⟩
    intro row member value held
    simp only [rows, List.mem_cons, List.not_mem_nil, or_false] at member
    rcases member with rfl | rfl | rfl
    · exact .inr ⟨hundredths, trivial, (Option.some.inj held).symm⟩
    · exact .inr ⟨tenths, trivial, (Option.some.inj held).symm⟩
    · exact .inl (Option.some.inj held ▸ rfl)
  obtain ⟨_, reads⟩ := reads_go_by_given_values service rfl
  obtain ⟨conditions, sorting⟩ := reads store "s" given rfl (by decide) (by decide) written
  obtain ⟨predicate, accepted, picked⟩ :=
    conditions rfl .time "t" .greaterOrEqual hundredths rfl holds rfl trivial
  have read := sorting query predicate rfl accepted fun sort member => by
    rw [List.mem_singleton.mp member]
    exact ⟨.time, rfl, holds⟩
  rw [picked] at read
  exact ⟨by decide +kernel, by decide +kernel, written, _, read, by decide +kernel⟩

end Service

end Store

end Polystore
