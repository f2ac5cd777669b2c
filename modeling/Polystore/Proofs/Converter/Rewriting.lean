import Polystore.Proofs.Converter.RoundTrip

/-!
What is read is written back. Reading turns maps into documents, but within lists that mix maps with other values, and
writing must tell from the value alone what it was. Where documents become maps, writing gives the native value that was
read. Where they become lists of maps it cannot, but what it gives reads as before, if it were not for sub-documents
without fields: these are written as empty lists, and an empty list is no document.
-/
namespace Polystore

open Polystore.Action

variable {σ : Type}

/-- A value that holds no values and that no writer takes. -/
def Registry.Spares (registry : Registry) (value : Value) : Prop :=
  value.isLeaf = true ∧ registry.accepts value = false

/-- Native values that are made of good scalars, and of maps in which no name occurs twice. -/
inductive Native.MadeOf (good : Value → Prop) : Native → Prop where
  | scalar {value : Value} (holds : good value) : MadeOf good (.scalar value)
  | map {entries : List (Named Native)} (distinct : Named.Distinct entries)
    (each : ∀ entry ∈ entries, MadeOf good entry.value) : MadeOf good (.map entries)
  | list {items : List Native} (each : ∀ item ∈ items, MadeOf good item) : MadeOf good (.list items)

namespace Value

mutual

/-- A value in which sub-documents without fields have become empty lists. Maps stay as they are. -/
def settled : Value → Value
  | .documents fields => if fields.isEmpty then .list [] .null else .documents (settledFields fields)
  | .document field => .document (settledField field)
  | .list items hint => .list (settledAll items) hint
  | .map entries => .map entries
  | .null => .null
  | .scalar type value => .scalar type value
  | .nullList hint => .nullList hint
  | .nullMap => .nullMap
  | .custom value => .custom value

def settledAll : List Value → List Value
  | [] => []
  | item :: rest => settled item :: settledAll rest

def settledField : Named Value → Named Value
  | ⟨name, value⟩ => ⟨name, settled value⟩

def settledFields : List (Named Value) → List (Named Value)
  | [] => []
  | field :: rest => settledField field :: settledFields rest

end

mutual

/-- Whether every sub-document of a value has fields. Maps are not looked into. -/
def isFilled : Value → Bool
  | .documents fields => !fields.isEmpty && isFilledFields fields
  | .document field => isFilledField field
  | .list items _ => isFilledAll items
  | .map _ | .null | .scalar _ _ | .nullList _ | .nullMap | .custom _ => true

def isFilledAll : List Value → Bool
  | [] => true
  | item :: rest => isFilled item && isFilledAll rest

def isFilledField : Named Value → Bool
  | ⟨_, value⟩ => isFilled value

def isFilledFields : List (Named Value) → Bool
  | [] => true
  | field :: rest => isFilledField field && isFilledFields rest

end

mutual

/-- Settling changes a value unless every sub-document of it has fields. -/
theorem settled_eq_self_iff (value : Value) : value.settled = value ↔ value.isFilled = true := by
  cases value with
  | documents fields =>
    cases fields with
    | nil => simp [settled, isFilled]
    | cons field rest => simpa [settled, isFilled] using settledFields_eq_self_iff (field :: rest)
  | document field => simpa [settled, isFilled] using settledField_eq_self_iff field
  | list items hint => simpa [settled, isFilled] using settledAll_eq_self_iff items
  | _ => simp [settled, isFilled]

theorem settledAll_eq_self_iff (items : List Value) : settledAll items = items ↔ isFilledAll items = true := by
  cases items with
  | nil => simp [settledAll, isFilledAll]
  | cons item rest =>
    simp [settledAll, isFilledAll, settled_eq_self_iff item, settledAll_eq_self_iff rest]

theorem settledField_eq_self_iff (field : Named Value) : settledField field = field ↔ isFilledField field = true := by
  obtain ⟨name, value⟩ := field
  simp [settledField, isFilledField, settled_eq_self_iff value]

theorem settledFields_eq_self_iff (fields : List (Named Value)) :
    settledFields fields = fields ↔ isFilledFields fields = true := by
  cases fields with
  | nil => simp [settledFields, isFilledFields]
  | cons field rest =>
    simp [settledFields, isFilledFields, settledField_eq_self_iff field, settledFields_eq_self_iff rest]

end

mutual

theorem isFilled_settled (value : Value) : value.settled.isFilled = true := by
  cases value with
  | documents fields =>
    cases fields with
    | nil => simp [settled, isFilled, isFilledAll]
    | cons field rest => simpa [settled, isFilled, settledFields] using isFilledFields_settledFields (field :: rest)
  | document field => simpa [settled, isFilled] using isFilledField_settledField field
  | list items hint => simpa [settled, isFilled] using isFilledAll_settledAll items
  | _ => simp [settled, isFilled]

theorem isFilledAll_settledAll (items : List Value) : isFilledAll (settledAll items) = true := by
  cases items with
  | nil => simp [settledAll, isFilledAll]
  | cons item rest => simp [settledAll, isFilledAll, isFilled_settled item, isFilledAll_settledAll rest]

theorem isFilledField_settledField (field : Named Value) : isFilledField (settledField field) = true := by
  obtain ⟨name, value⟩ := field
  simp [settledField, isFilledField, isFilled_settled value]

theorem isFilledFields_settledFields (fields : List (Named Value)) :
    isFilledFields (settledFields fields) = true := by
  cases fields with
  | nil => simp [settledFields, isFilledFields]
  | cons field rest =>
    simp [settledFields, isFilledFields, isFilledField_settledField field, isFilledFields_settledFields rest]

end

theorem settled_of_isLeaf {value : Value} (leaf : value.isLeaf = true) : value.settled = value := by
  cases value with
  | list items hint => cases leaf
  | map entries => cases leaf
  | document field => cases leaf
  | documents fields => cases leaf
  | _ => rfl

end Value

/-- An entity in which sub-documents without fields have become empty lists. -/
def Entity.settled (entity : Entity) : Entity := ⟨entity.collection, Value.settledFields entity.fields⟩

/-- Whether every sub-document of an entity has fields. -/
def Entity.isFilled (entity : Entity) : Bool := Value.isFilledFields entity.fields

theorem Entity.settled_eq_self_iff (entity : Entity) : entity.settled = entity ↔ entity.isFilled = true := by
  obtain ⟨collection, fields⟩ := entity
  simpa [settled, isFilled] using Value.settledFields_eq_self_iff fields

theorem Entity.settled_settled (entity : Entity) : entity.settled.settled = entity.settled :=
  entity.settled.settled_eq_self_iff.mpr (Value.isFilledFields_settledFields entity.fields)

namespace Converter

/-- A list is read as documents, element by element, or as the opaque value. -/
theorem valueOf_list_cases (layout : Layout) (items : List Native) :
    (items ≠ [] ∧ ∀ item ∈ items, item.isMap = true) ∨ (∀ item ∈ items, item.isMap = false) ∨
      valueOf layout (.list items) = (Native.list items).opaqueValue := by
  by_cases maps : (!items.isEmpty && items.all Native.isMap) = true
  · exact Or.inl (by simpa using maps)
  · by_cases some : items.any Native.isMap = true
    · exact Or.inr (Or.inr (by simp [valueOf, maps, some, Native.opaqueValue]))
    · exact Or.inr (Or.inl (by simpa using some))

/-- The fields of the maps of a list are read entry by entry. -/
theorem of_mem_documentsOf {layout : Layout} {items : List Native} {field : Field}
    (member : field ∈ (documentsOf layout items).flatten) :
    ∃ entries, .map entries ∈ items ∧ ∃ entry ∈ entries, field = entry.map (valueOf layout) := by
  induction items with
  | nil => cases member
  | cons item rest ih =>
    rw [documentsOf, List.flatten_append, List.mem_append] at member
    rcases member with first | later
    · cases item with
      | scalar value => cases first
      | list items => cases first
      | map entries =>
        have here : field ∈ fieldsOf layout entries := by simpa [documentOf] using first
        rw [fieldsOf_eq_map] at here
        obtain ⟨entry, present, rfl⟩ := List.mem_map.mp here
        exact ⟨entries, List.mem_cons_self .., entry, present, rfl⟩
    · obtain ⟨entries, present, shown⟩ := ih later
      exact ⟨entries, List.mem_cons_of_mem item present, shown⟩

variable {converter : Converter}

theorem nativeOf_of_spared (passThrough : converter.settings.policy = .passThrough) {value : Value}
    (spared : converter.registry.Spares value) : converter.nativeOf value = .ok (.scalar value) := by
  rw [nativeOf_of_isLeaf spared.1, writeScalar_of_refused passThrough spared.2]
  rfl

/-- Items that are read as what is written back are together. -/
theorem nativeOfItems_map {read : Native → Value} {items : List Native}
    (each : ∀ item ∈ items, converter.nativeOf (read item) = .ok item) :
    converter.nativeOfItems (items.map read) = .ok items := by
  induction items with
  | nil => rfl
  | cons item rest ih =>
    have others := ih fun other member => each other (List.mem_cons_of_mem item member)
    rw [List.map_cons, nativeOfItems, each item (List.mem_cons_self ..), others]
    rfl

theorem nativeOfFields_map {read : Native → Value} {entries : List (Named Native)}
    (each : ∀ entry ∈ entries, converter.nativeOf (read entry.value) = .ok entry.value) :
    converter.nativeOfFields (entries.map (Named.map read)) = .ok entries := by
  induction entries with
  | nil => rfl
  | cons entry rest ih =>
    have first : converter.nativeOfField (entry.map read) = .ok entry :=
      nativeOfField_of_value (each entry (List.mem_cons_self ..))
    have others := ih fun other member => each other (List.mem_cons_of_mem entry member)
    rw [List.map_cons, nativeOfFields, first, others]
    rfl

/-- An opaque value is written as the native value that it holds, whatever the layout. -/
theorem nativeOf_opaqueValue (passThrough : converter.settings.policy = .passThrough) {native : Native}
    (made : native.MadeOf converter.registry.Spares) : converter.nativeOf native.opaqueValue = .ok native := by
  induction made with
  | scalar spared => exact nativeOf_of_spared passThrough spared
  | @map entries distinct each ih =>
    rw [Native.opaqueValue, Native.opaqueEntries_eq_map, nativeOf, nativeOfFields_map ih]
    exact congrArg (fun entries => Except.ok (Native.map entries)) (Named.ofList_of_distinct distinct)
  | @list items each ih =>
    rw [Native.opaqueValue, Native.opaqueItems_eq_map, nativeOf, nativeOfItems_map ih]
    rfl

/-- Where documents become maps, what a native value is read as is written as the native value. -/
theorem nativeOf_valueOf_embedded (passThrough : converter.settings.policy = .passThrough)
    (embedded : converter.settings.layout = .embedded) {native : Native}
    (made : native.MadeOf converter.registry.Spares) : converter.nativeOf (valueOf .embedded native) = .ok native := by
  induction made with
  | scalar spared => exact nativeOf_of_spared passThrough spared
  | @map entries distinct each ih =>
    rw [valueOf, fieldsOf_eq_map, nativeOf, nativeOfFields_map ih]
    simp [Except.map, layOut, embedded, Named.ofList_of_distinct distinct]
  | @list items each ih =>
    have written : converter.nativeOfItems (valuesOf .embedded items) = .ok items := by
      rw [valuesOf_eq_map, nativeOfItems_map ih]
    rcases valueOf_list_cases .embedded items with ⟨some, maps⟩ | mapless | mixed
    · rw [valueOf_list_of_maps some maps, nativeOf, written]
      rfl
    · rw [valueOf_list_of_mapless mapless, nativeOf, written]
      rfl
    · rw [mixed, nativeOf_opaqueValue passThrough (.list each)]

/-- The entity that a row is read as is written as the native forms of its fields. -/
theorem rowOf_entityOf {row written : Row} (distinct : Named.Distinct row)
    (given : converter.nativeOfFields (fieldsOf converter.settings.layout row) = .ok written) (collection : String)
    (state : σ) : effect (converter.rowOf (converter.entityOf row collection)) state = (.ok written, state) := by
  have names : Named.names (fieldsOf converter.settings.layout row) = Named.names row := by
    rw [fieldsOf_eq_map, Named.names_map]
  have whole : converter.written (converter.entityOf row collection) [] = .ok written :=
    fieldsOnto_of_nodup given (names ▸ distinct)
  rw [rowOf, effect_rowExcluding, whole]

/-- The entity that a row is read as is written as the row. -/
theorem rowOf_entityOf_embedded (passThrough : converter.settings.policy = .passThrough)
    (embedded : converter.settings.layout = .embedded) {row : Row}
    (made : (Native.map row).MadeOf converter.registry.Spares) (collection : String) (state : σ) :
    effect (converter.rowOf (converter.entityOf row collection)) state = (.ok row, state) := by
  cases made with
  | map distinct each =>
    refine rowOf_entityOf distinct ?_ collection state
    rw [fieldsOf_eq_map, embedded,
      nativeOfFields_map fun entry member => nativeOf_valueOf_embedded passThrough embedded (each entry member)]

theorem settledAll_eq_self {items : List Value} (each : ∀ item ∈ items, item.settled = item) :
    Value.settledAll items = items := by
  induction items with
  | nil => rfl
  | cons item rest ih =>
    have others := ih fun other member => each other (List.mem_cons_of_mem item member)
    rw [Value.settledAll, each item (List.mem_cons_self ..), others]

/-- An opaque value has no documents. -/
theorem settled_opaqueValue {registry : Registry} {native : Native} (made : native.MadeOf registry.Spares) :
    native.opaqueValue.settled = native.opaqueValue := by
  induction made with
  | scalar spared => exact Value.settled_of_isLeaf spared.1
  | map distinct each ih => rfl
  | @list items each ih =>
    have same : Value.settledAll (items.map Native.opaqueValue) = items.map Native.opaqueValue := by
      refine settledAll_eq_self fun value member => ?_
      obtain ⟨item, present, rfl⟩ := List.mem_map.mp member
      exact ih item present
    rw [Native.opaqueValue, Native.opaqueItems_eq_map, Value.settled, same]

/-- A native value that a value is written as, and that reads as the value settled. -/
structure SettlesAs (registry : Registry) (value : Value) (again : Native) : Prop where
  settled : valueOf .singleton again = value.settled
  made : again.MadeOf registry.Spares
  /-- Documents become lists, so that no list of them is taken for a document. -/
  mapless : again.isMap = false

/-- A field, and an entry of its name that the value of the field settles as. -/
def FieldSettlesAs (registry : Registry) (field : Field) (entry : Named Native) : Prop :=
  entry.name = field.name ∧ SettlesAs registry field.value entry.value

theorem valuesOf_eq_settledAll {registry : Registry} {items : List Value} {natives : List Native}
    (settle : List.Forall₂ (SettlesAs registry) items natives) :
    valuesOf .singleton natives = Value.settledAll items := by
  induction settle with
  | nil => rfl
  | cons first others ih => rw [valuesOf, Value.settledAll, first.settled, ih]

theorem fieldsOf_eq_settledFields {registry : Registry} {fields : List Field} {entries : List (Named Native)}
    (settle : List.Forall₂ (FieldSettlesAs registry) fields entries) :
    fieldsOf .singleton entries = Value.settledFields fields := by
  induction settle with
  | nil => rfl
  | @cons field entry fields entries first others ih =>
    obtain ⟨name, value⟩ := field
    obtain ⟨other, native⟩ := entry
    obtain ⟨rfl, settles⟩ := first
    rw [fieldsOf, fieldOf, Value.settledFields, Value.settledField, settles.settled, ih]

theorem settlesAs_list {registry : Registry} {items : List Value} {natives : List Native}
    (settle : List.Forall₂ (SettlesAs registry) items natives) :
    SettlesAs registry (.list items .null) (.list natives) where
  settled := by
    have mapless : ∀ native ∈ natives, native.isMap = false := by
      intro native member
      obtain ⟨item, _, settles⟩ := exists_of_mem settle member
      exact settles.mapless
    rw [valueOf_list_of_mapless mapless, valuesOf_eq_settledAll settle, Value.settled]
  made := by
    refine .list fun native member => ?_
    obtain ⟨item, _, settles⟩ := exists_of_mem settle member
    exact settles.made
  mapless := rfl

/-- A document settles entry by entry; without any it is an empty list from then on. -/
theorem settlesAs_documents {registry : Registry} {fields : List Field} {entries : List (Named Native)}
    (settle : List.Forall₂ (FieldSettlesAs registry) fields entries) :
    SettlesAs registry (.documents fields) (.list (entries.map fun entry => .map [entry])) where
  settled := by
    have same := fieldsOf_eq_settledFields settle
    cases settle with
    | nil => rfl
    | cons first others =>
      rw [valueOf_list_of_entries (List.cons_ne_nil _ _), same]
      rfl
  made := by
    refine .list fun native member => ?_
    obtain ⟨entry, present, rfl⟩ := List.mem_map.mp member
    obtain ⟨field, _, _, settles⟩ := exists_of_mem settle present
    refine .map (by simp [Named.Distinct, Named.names]) fun other here => ?_
    rw [List.mem_singleton.mp here]
    exact settles.made
  mapless := rfl

/-- A value is written as something that it settles as. -/
def Settles (converter : Converter) (value : Value) : Prop :=
  ∃ again, converter.nativeOf value = .ok again ∧ SettlesAs converter.registry value again

theorem settles_list {items : List Value} (each : ∀ item ∈ items, converter.Settles item) :
    converter.Settles (.list items .null) := by
  obtain ⟨natives, written, settle⟩ := nativeOfItems_of_each each
  exact ⟨.list natives, by rw [nativeOf, written]; rfl, settlesAs_list settle⟩

theorem settles_documents (singleton : converter.settings.layout = .singleton) {fields : List Field}
    (each : ∀ field ∈ fields, converter.Settles field.value) : converter.Settles (.documents fields) := by
  obtain ⟨entries, written, settle⟩ := nativeOfFields_of_each each
  refine ⟨_, ?_, settlesAs_documents settle⟩
  rw [nativeOf, written]
  simp [Except.map, layOut, singleton]

/-- An opaque list is written as the list that it holds, and read as before. -/
theorem settles_opaqueList (passThrough : converter.settings.policy = .passThrough) {items : List Native}
    (each : ∀ item ∈ items, item.MadeOf converter.registry.Spares)
    (isOpaque : valueOf .singleton (.list items) = (Native.list items).opaqueValue) :
    converter.Settles (Native.list items).opaqueValue :=
  ⟨.list items, nativeOf_opaqueValue passThrough (.list each),
    isOpaque.trans (settled_opaqueValue (.list each)).symm, .list each, rfl⟩

/-- Where documents become lists of maps, what a native value is read as settles, and so do the entries of a map, which
a list of maps is read as one document of. -/
theorem settles_valueOf (passThrough : converter.settings.policy = .passThrough)
    (singleton : converter.settings.layout = .singleton) {native : Native}
    (made : native.MadeOf converter.registry.Spares) :
    converter.Settles (valueOf .singleton native) ∧
      ∀ entries, native = .map entries → ∀ entry ∈ entries, converter.Settles (valueOf .singleton entry.value) := by
  induction made with
  | @scalar value spared =>
    have same : valueOf .singleton (.scalar value) = value.settled := (Value.settled_of_isLeaf spared.1).symm
    exact ⟨⟨.scalar value, nativeOf_of_spared passThrough spared, same, .scalar spared, rfl⟩, by simp⟩
  | @map entries distinct each ih =>
    have settle : ∀ entry ∈ entries, converter.Settles (valueOf .singleton entry.value) :=
      fun entry member => (ih entry member).1
    refine ⟨?_, fun others same => by cases same; exact settle⟩
    rw [valueOf, fieldsOf_eq_map]
    refine settles_documents singleton fun field member => ?_
    obtain ⟨entry, present, rfl⟩ := List.mem_map.mp member
    exact settle entry present
  | @list items each ih =>
    refine ⟨?_, by simp⟩
    -- What an element becomes depends on all its siblings: the maps of a list go into one document, unless others stand
    -- between them.
    rcases valueOf_list_cases .singleton items with ⟨some, maps⟩ | mapless | isOpaque
    · have all : valueOf .singleton (.list items) = .documents (documentsOf .singleton items).flatten := by
        simp [valueOf, some, List.all_eq_true.mpr maps]
      rw [all]
      refine settles_documents singleton fun field member => ?_
      obtain ⟨entries, present, entry, inside, rfl⟩ := of_mem_documentsOf member
      exact (ih (.map entries) present).2 entries rfl entry inside
    · rw [valueOf_list_of_mapless mapless, valuesOf_eq_map]
      refine settles_list fun value member => ?_
      obtain ⟨item, present, rfl⟩ := List.mem_map.mp member
      exact (ih item present).1
    · rw [isOpaque]
      exact settles_opaqueList passThrough each isOpaque

/-- The entity that a row is read as is written, and what is written reads as the entity settled. -/
theorem rowOf_entityOf_singleton (passThrough : converter.settings.policy = .passThrough)
    (singleton : converter.settings.layout = .singleton) {row : Row}
    (made : (Native.map row).MadeOf converter.registry.Spares) (collection : String) (state : σ) :
    ∃ again, effect (converter.rowOf (converter.entityOf row collection)) state = (.ok again, state) ∧
      converter.entityOf again collection = (converter.entityOf row collection).settled ∧
      (Native.map again).MadeOf converter.registry.Spares := by
  have each := (settles_valueOf passThrough singleton made).2 row rfl
  have settle : ∀ field ∈ fieldsOf converter.settings.layout row, converter.Settles field.value := by
    intro field member
    rw [fieldsOf_eq_map, singleton] at member
    obtain ⟨entry, present, rfl⟩ := List.mem_map.mp member
    exact each entry present
  cases made with
  | map distinct _ =>
    obtain ⟨again, written, settled⟩ := nativeOfFields_of_each settle
    refine ⟨again, rowOf_entityOf distinct written collection state, ?_, .map ?_ ?_⟩
    · rw [entityOf, singleton, fieldsOf_eq_settledFields settled]
      rfl
    · rwa [Named.Distinct, names_of_forall₂ settled, fieldsOf_eq_map, Named.names_map]
    · intro entry member
      obtain ⟨field, _, _, settles⟩ := exists_of_mem settled member
      exact settles.made

/-- A row that is read, written and read again shows the same, but that sub-documents without fields become empty
lists. From then on nothing changes. -/
theorem rewritten_row_reads_settled (converter : Converter) (passThrough : converter.settings.policy = .passThrough)
    (singleton : converter.settings.layout = .singleton) {row : Row}
    (made : (Native.map row).MadeOf converter.registry.Spares) (collection : String) (state : σ) :
    let read := converter.entityOf row collection
    (read.settled = read ↔ read.isFilled = true) ∧
      ∃ again, effect (converter.rowOf read) state = (.ok again, state) ∧
        converter.entityOf again collection = read.settled ∧
        ∃ last, effect (converter.rowOf (converter.entityOf again collection)) state = (.ok last, state) ∧
          converter.entityOf last collection = converter.entityOf again collection := by
  intro read
  obtain ⟨again, written, settled, remade⟩ := rowOf_entityOf_singleton passThrough singleton made collection state
  obtain ⟨last, rewritten, resettled, _⟩ := rowOf_entityOf_singleton passThrough singleton remade collection state
  refine ⟨read.settled_eq_self_iff, again, written, settled, last, rewritten, ?_⟩
  rw [resettled, settled, Entity.settled_settled]

/-- A map with an empty one inside, and a list that is kept opaque. -/
theorem rewritten_nested_row_reads_settled :
    let converter : Converter := {}
    let entry : Named Native := ⟨"x", .scalar (.text "y")⟩
    let row : Row := [⟨"d", .map [entry, ⟨"e", .map []⟩]⟩, ⟨"l", .list [.map [entry], .map [], entry.value]⟩]
    let mixed : Value := .list [.map [⟨"x", .text "y"⟩], .map [], .text "y"] .null
    let settled : Entity := ⟨"c", [⟨"d", .documents [⟨"x", .text "y"⟩, ⟨"e", .list [] .null⟩]⟩, ⟨"l", mixed⟩]⟩
    ∃ again, effect (converter.rowOf (converter.entityOf row "c")) () = (.ok again, ()) ∧
      converter.entityOf again "c" = settled ∧
      ∃ last, effect (converter.rowOf settled) () = (.ok last, ()) ∧ converter.entityOf last "c" = settled := by
  intro converter entry row mixed settled
  have scalar : entry.value.MadeOf converter.registry.Spares := .scalar ⟨rfl, rfl⟩
  have single : (Native.map [entry]).MadeOf converter.registry.Spares := by
    refine .map (by simp [Named.Distinct, Named.names]) fun other member => ?_
    rwa [List.mem_singleton.mp member]
  have empty : (Native.map []).MadeOf converter.registry.Spares :=
    .map (by simp [Named.Distinct, Named.names]) (by simp)
  have made : (Native.map row).MadeOf converter.registry.Spares := by
    refine .map (by simp [Named.Distinct, Named.names, row]) fun field member => ?_
    rcases List.mem_pair.mp member with rfl | rfl
    · refine .map (by simp [Named.Distinct, Named.names, entry]) fun inner inside => ?_
      rcases List.mem_pair.mp inside with rfl | rfl
      · exact scalar
      · exact empty
    · refine .list fun item inside => ?_
      simp only [List.mem_cons, List.not_mem_nil, or_false] at inside
      rcases inside with rfl | rfl | rfl
      · exact single
      · exact empty
      · exact scalar
  obtain ⟨_, again, written, reads, last, rewritten, same⟩ :=
    rewritten_row_reads_settled converter rfl rfl made "c" ()
  have shown : (converter.entityOf row "c").settled = settled := rfl
  rw [shown] at reads
  rw [reads] at rewritten same
  exact ⟨again, written, reads, last, rewritten, same⟩

/-- An empty map is read as a document without fields, and once that is written as an empty list. -/
theorem rewritten_empty_map_reads_otherwise :
    let converter : Converter := {}
    let row : Row := [⟨"a", .map []⟩]
    let read := converter.entityOf row "c"
    converter.settings = ⟨.passThrough, .singleton⟩ ∧ (Native.map row).MadeOf converter.registry.Spares ∧
      read.fields = [⟨"a", .documents []⟩] ∧
      ∃ again, effect (converter.rowOf read) () = (.ok again, ()) ∧
        (converter.entityOf again "c").fields = [⟨"a", .list [] .null⟩] ∧
        (converter.entityOf again "c").same read = false := by
  intro converter row read
  have made : (Native.map row).MadeOf converter.registry.Spares := by
    refine .map (by simp [Named.Distinct, Named.names, row]) fun entry member => ?_
    rw [List.mem_singleton.mp member]
    exact .map (by simp [Named.Distinct, Named.names]) (by simp)
  have other : (converter.entityOf [⟨"a", .list []⟩] "c").same read = false := by
    simp [converter, row, read, entityOf, fieldsOf, fieldOf, valueOf, valuesOf, Entity.same, Value.sameFields,
      Value.sameField, Value.same]
  exact ⟨rfl, made, rfl, [⟨"a", .list []⟩], rfl, rfl, other⟩

end Converter

end Polystore
