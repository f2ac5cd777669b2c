import Mathlib.Data.List.Forall2
import Polystore.Proofs.Converter.Rows

/-!
What is written reads back. Writing sends documents and lists to maps and lists, and reading tells them apart by what
their siblings are; so a value comes back if its lists and documents are such that the layout keeps them apart. What
comes back is the value itself, but that single sub-documents have become documents of one field, and that lists have
forgotten what their elements are like.
-/
namespace Polystore

open Polystore.Action

variable {σ : Type}

namespace Value

mutual

/-- A value whose lists have no hints. -/
def withoutHints : Value → Value
  | .nullList _ => .nullList .null
  | .list items _ => .list (withoutHintsAll items) .null
  | .map entries => .map (withoutHintsFields entries)
  | .document field => .document (withoutHintsField field)
  | .documents fields => .documents (withoutHintsFields fields)
  | .null => .null
  | .scalar type value => .scalar type value
  | .nullMap => .nullMap
  | .custom value => .custom value

def withoutHintsAll : List Value → List Value
  | [] => []
  | item :: rest => withoutHints item :: withoutHintsAll rest

def withoutHintsField : Named Value → Named Value
  | ⟨name, value⟩ => ⟨name, withoutHints value⟩

def withoutHintsFields : List (Named Value) → List (Named Value)
  | [] => []
  | field :: rest => withoutHintsField field :: withoutHintsFields rest

end

mutual

/-- A value in which each single sub-document is a document of one field. -/
def expanded : Value → Value
  | .document field => .documents [expandedField field]
  | .documents fields => .documents (expandedFields fields)
  | .list items hint => .list (expandedAll items) hint
  | .map entries => .map (expandedFields entries)
  | .null => .null
  | .scalar type value => .scalar type value
  | .nullList hint => .nullList hint
  | .nullMap => .nullMap
  | .custom value => .custom value

def expandedAll : List Value → List Value
  | [] => []
  | item :: rest => expanded item :: expandedAll rest

def expandedField : Named Value → Named Value
  | ⟨name, value⟩ => ⟨name, expanded value⟩

def expandedFields : List (Named Value) → List (Named Value)
  | [] => []
  | field :: rest => expandedField field :: expandedFields rest

end

/-- Whether a value holds no values: a scalar, a null of any sort, or an application's own value. -/
def isLeaf : Value → Bool
  | .list _ _ | .map _ | .document _ | .documents _ => false
  | _ => true

theorem expanded_of_isLeaf {value : Value} (leaf : value.isLeaf = true) : value.expanded = value := by
  cases value with
  | list items hint => cases leaf
  | map entries => cases leaf
  | document field => cases leaf
  | documents fields => cases leaf
  | _ => rfl

theorem withoutHintsFields_eq_map (fields : List (Named Value)) :
    withoutHintsFields fields = fields.map (Named.map withoutHints) := by
  induction fields with
  | nil => rfl
  | cons field rest ih => rw [withoutHintsFields, ih, withoutHintsField, List.map_cons, Named.map]

mutual

/-- Equality does not see the hints of lists. -/
theorem same_withoutHints (value other : Value) : value.withoutHints.same other = value.same other := by
  cases value with
  | list items hint => cases other <;> simp [withoutHints, same, sameItems_withoutHints items]
  | map entries =>
    have length : (withoutHintsFields entries).length = entries.length := by
      rw [withoutHintsFields_eq_map, List.length_map]
    cases other <;> simp [withoutHints, same, sameEntries_withoutHints entries, length]
  | document field => cases other <;> simp [withoutHints, same, sameField_withoutHints field]
  | documents fields => cases other <;> simp [withoutHints, same, sameFields_withoutHints fields]
  | nullList hint => cases other <;> simp [withoutHints, same]
  | _ => simp [withoutHints]

theorem sameItems_withoutHints (items others : List Value) :
    sameItems (withoutHintsAll items) others = sameItems items others := by
  cases items with
  | nil => rfl
  | cons item rest =>
    cases others with
    | nil => simp [withoutHintsAll, sameItems]
    | cons other more =>
      rw [withoutHintsAll, sameItems, sameItems, same_withoutHints item, sameItems_withoutHints rest]

theorem sameField_withoutHints (field other : Named Value) :
    sameField (withoutHintsField field) other = sameField field other := by
  obtain ⟨name, value⟩ := field
  rw [withoutHintsField, sameField, sameField, same_withoutHints value]

theorem sameFields_withoutHints (fields others : List (Named Value)) :
    sameFields (withoutHintsFields fields) others = sameFields fields others := by
  cases fields with
  | nil => rfl
  | cons field rest =>
    cases others with
    | nil => simp [withoutHintsFields, sameFields]
    | cons other more =>
      rw [withoutHintsFields, sameFields, sameFields, sameField_withoutHints field, sameFields_withoutHints rest]

theorem sameEntries_withoutHints (entries others : List (Named Value)) :
    sameEntries (withoutHintsFields entries) others = sameEntries entries others := by
  cases entries with
  | nil => rfl
  | cons entry rest =>
    rw [withoutHintsFields, sameEntries, sameEntries, sameEntry_withoutHints entry, sameEntries_withoutHints rest]

theorem sameEntry_withoutHints (entry : Named Value) (others : List (Named Value)) :
    sameEntry (withoutHintsField entry) others = sameEntry entry others := by
  obtain ⟨name, value⟩ := entry
  rw [withoutHintsField, sameEntry, sameEntry]
  cases Named.find? others name with
  | none => rfl
  | some other => exact same_withoutHints value other

end

end Value

def Entity.withoutHints (entity : Entity) : Entity :=
  ⟨entity.collection, Value.withoutHintsFields entity.fields⟩

def Entity.expanded (entity : Entity) : Entity := ⟨entity.collection, Value.expandedFields entity.fields⟩

/-- Entities that differ in hints alone are equal to the same entities. -/
theorem Entity.same_of_withoutHints {a b : Entity} (alike : a.withoutHints = b.withoutHints) (other : Entity) :
    a.same other = b.same other := by
  obtain ⟨collection, fields⟩ := Entity.mk.inj alike
  rw [same, same, collection, ← Value.sameFields_withoutHints a.fields, fields, Value.sameFields_withoutHints]

/-- Values that are made of what no writer takes, of lists and of documents. A single sub-document is no element of a
list. -/
inductive Registry.Plain (registry : Registry) : Value → Prop where
  | leaf {value : Value} (leaf : value.isLeaf = true) (refused : registry.accepts value = false) : Plain registry value
  | list {items : List Value} (hint : Value) (apart : ∀ item ∈ items, item.kind ≠ .document)
    (plain : ∀ item ∈ items, Plain registry item) : Plain registry (.list items hint)
  | document {field : Field} (plain : Plain registry field.value) : Plain registry (.document field)
  | documents {fields : List Field} (plain : ∀ field ∈ fields, Plain registry field.value) :
    Plain registry (.documents fields)

/-- Values that a layout can tell from others. Where documents become lists, none is empty; where they become maps, no
name occurs twice in one, and no list has both documents and other elements. -/
inductive Layout.TellsApart : Layout → Value → Prop where
  | leaf (layout : Layout) {value : Value} (leaf : value.isLeaf = true) : TellsApart layout value
  | singletonList {items : List Value} (hint : Value) (each : ∀ item ∈ items, TellsApart .singleton item) :
    TellsApart .singleton (.list items hint)
  | embeddedList {items : List Value} (hint : Value)
    (alike : (∀ item ∈ items, item.kind = .documents) ∨ ∀ item ∈ items, item.kind ≠ .documents)
    (each : ∀ item ∈ items, TellsApart .embedded item) : TellsApart .embedded (.list items hint)
  | document {layout : Layout} {field : Field} (content : TellsApart layout field.value) :
    TellsApart layout (.document field)
  | singletonDocuments {fields : List Field} (some : fields ≠ [])
    (each : ∀ field ∈ fields, TellsApart .singleton field.value) : TellsApart .singleton (.documents fields)
  | embeddedDocuments {fields : List Field} (distinct : Named.Distinct fields)
    (each : ∀ field ∈ fields, TellsApart .embedded field.value) : TellsApart .embedded (.documents fields)

namespace Converter

/-- A native value that a value is written as and that reads back as the value. -/
structure ReadsBack (layout : Layout) (value : Value) (native : Native) : Prop where
  alike : (valueOf layout native).withoutHints = value.expanded.withoutHints
  /-- Single sub-documents are maps, and so are documents where they are embedded. -/
  isMap : native.isMap = true ↔ value.kind = .document ∨ value.kind = .documents ∧ layout = .embedded

/-- A field and an entry of its name that reads back as the field. -/
def FieldReadsBack (layout : Layout) (field : Field) (entry : Named Native) : Prop :=
  entry.name = field.name ∧ ReadsBack layout field.value entry.value

theorem withoutHintsAll_valuesOf {layout : Layout} {items : List Value} {natives : List Native}
    (read : List.Forall₂ (ReadsBack layout) items natives) :
    Value.withoutHintsAll (valuesOf layout natives) = Value.withoutHintsAll (Value.expandedAll items) := by
  induction read with
  | nil => rfl
  | cons first others ih => simp [valuesOf, Value.expandedAll, Value.withoutHintsAll, first.alike, ih]

theorem withoutHintsFields_fieldsOf {layout : Layout} {fields : List Field} {entries : List (Named Native)}
    (read : List.Forall₂ (FieldReadsBack layout) fields entries) :
    Value.withoutHintsFields (fieldsOf layout entries) = Value.withoutHintsFields (Value.expandedFields fields) := by
  induction read with
  | nil => rfl
  | @cons field entry fields entries first others ih =>
    obtain ⟨name, value⟩ := field
    obtain ⟨other, native⟩ := entry
    obtain ⟨rfl, back⟩ := first
    simp [fieldsOf, fieldOf, Value.expandedFields, Value.expandedField, Value.withoutHintsFields,
      Value.withoutHintsField, back.alike, ih]

/-- A list without maps is read element by element. -/
theorem valueOf_list_of_mapless {layout : Layout} {natives : List Native}
    (mapless : ∀ native ∈ natives, native.isMap = false) :
    valueOf layout (.list natives) = .list (valuesOf layout natives) .null := by
  have none : natives.any Native.isMap = false :=
    List.any_eq_false.mpr fun native member => by simp [mapless native member]
  have notAll : (!natives.isEmpty && natives.all Native.isMap) = false := by
    cases natives with
    | nil => rfl
    | cons native rest => simp [mapless native (List.mem_cons_self ..)]
  simp [valueOf, none, notAll]

theorem map_documents_documentsOf {layout : Layout} {natives : List Native}
    (maps : ∀ native ∈ natives, native.isMap = true) :
    (documentsOf layout natives).map .documents = valuesOf layout natives := by
  induction natives with
  | nil => rfl
  | cons native rest ih =>
    have first := maps native (List.mem_cons_self ..)
    cases native with
    | scalar value => cases first
    | list items => cases first
    | map entries =>
      have others := ih fun other member => maps other (List.mem_cons_of_mem _ member)
      simp [documentsOf, documentOf, valuesOf, valueOf, others]

/-- A list of embedded documents is read document by document. -/
theorem valueOf_list_of_maps {natives : List Native} (some : natives ≠ [])
    (maps : ∀ native ∈ natives, native.isMap = true) :
    valueOf .embedded (.list natives) = .list (valuesOf .embedded natives) (.documents []) := by
  have all : (!natives.isEmpty && natives.all Native.isMap) = true := by
    simp [List.isEmpty_eq_false_iff.mpr some, List.all_eq_true.mpr maps]
  simp [valueOf, all, map_documents_documentsOf maps]

/-- A list of single entries is read as one document. -/
theorem valueOf_list_of_entries {entries : List (Named Native)} (some : entries ≠ []) :
    valueOf .singleton (.list (entries.map fun entry => .map [entry])) = .documents (fieldsOf .singleton entries) := by
  have all : (!(entries.map fun entry => Native.map [entry]).isEmpty &&
      (entries.map fun entry => Native.map [entry]).all Native.isMap) = true := by
    simp [some, Native.isMap]
  have fields : (documentsOf .singleton (entries.map fun entry => .map [entry])).flatten =
      fieldsOf .singleton entries := by
    clear some all
    induction entries with
    | nil => rfl
    | cons entry rest ih => simp [documentsOf, documentOf, fieldsOf, ih]
  simp only [valueOf, all, if_true, fields]

variable {converter : Converter}

/-- Values that have native forms one by one have them together. -/
theorem nativeOfItems_of_each {good : Value → Native → Prop} {items : List Value}
    (each : ∀ item ∈ items, ∃ native, converter.nativeOf item = .ok native ∧ good item native) :
    ∃ natives, converter.nativeOfItems items = .ok natives ∧ List.Forall₂ good items natives := by
  induction items with
  | nil => exact ⟨[], rfl, .nil⟩
  | cons item rest ih =>
    obtain ⟨native, first, holds⟩ := each item (List.mem_cons_self ..)
    obtain ⟨natives, others, hold⟩ := ih fun other member => each other (List.mem_cons_of_mem item member)
    exact ⟨native :: natives, by rw [nativeOfItems, first, others]; rfl, .cons holds hold⟩

theorem nativeOfField_of_value {field : Field} {native : Native}
    (written : converter.nativeOf field.value = .ok native) :
    converter.nativeOfField field = .ok ⟨field.name, native⟩ := by
  rw [nativeOfField, written]
  rfl

theorem nativeOfFields_of_each {good : Value → Native → Prop} {fields : List Field}
    (each : ∀ field ∈ fields, ∃ native, converter.nativeOf field.value = .ok native ∧ good field.value native) :
    ∃ entries, converter.nativeOfFields fields = .ok entries ∧
      List.Forall₂ (fun field entry => entry.name = field.name ∧ good field.value entry.value) fields entries := by
  induction fields with
  | nil => exact ⟨[], rfl, .nil⟩
  | cons field rest ih =>
    obtain ⟨native, first, holds⟩ := each field (List.mem_cons_self ..)
    obtain ⟨entries, others, hold⟩ := ih fun other member => each other (List.mem_cons_of_mem field member)
    exact ⟨⟨field.name, native⟩ :: entries, by rw [nativeOfFields, nativeOfField_of_value first, others]; rfl,
      .cons ⟨rfl, holds⟩ hold⟩

theorem of_nativeOfField_eq_ok {field : Field} {entry : Named Native}
    (written : converter.nativeOfField field = .ok entry) :
    ∃ native, converter.nativeOf field.value = .ok native ∧ entry = ⟨field.name, native⟩ := by
  rw [nativeOfField] at written
  obtain ⟨native, given, whole⟩ := Except.of_map_eq_ok written
  exact ⟨native, given, whole.symm⟩

/-- Values are written together as what they are written as one by one. -/
theorem nativeOfItems_eq_ok_iff {items : List Value} {natives : List Native} :
    converter.nativeOfItems items = .ok natives ↔
      List.Forall₂ (fun item native => converter.nativeOf item = .ok native) items natives := by
  constructor
  · intro written
    induction items generalizing natives with
    | nil =>
      cases written
      exact .nil
    | cons item rest ih =>
      obtain ⟨first, given, others⟩ := Except.of_bind_eq_ok written
      obtain ⟨more, behind, whole⟩ := Except.of_bind_eq_ok others
      cases whole
      exact .cons given (ih behind)
  · intro each
    induction each with
    | nil => rfl
    | cons first others ih =>
      rw [nativeOfItems, first, ih]
      rfl

theorem nativeOfFields_eq_ok_iff {fields : List Field} {entries : List (Named Native)} :
    converter.nativeOfFields fields = .ok entries ↔
      List.Forall₂ (fun field entry => entry.name = field.name ∧ converter.nativeOf field.value = .ok entry.value)
        fields entries := by
  constructor
  · intro written
    induction fields generalizing entries with
    | nil =>
      cases written
      exact .nil
    | cons field rest ih =>
      obtain ⟨first, given, others⟩ := Except.of_bind_eq_ok written
      obtain ⟨more, behind, whole⟩ := Except.of_bind_eq_ok others
      cases whole
      obtain ⟨native, shown, rfl⟩ := of_nativeOfField_eq_ok given
      exact .cons ⟨rfl, shown⟩ (ih behind)
  · intro each
    induction each with
    | nil => rfl
    | @cons field entry fields entries first others ih =>
      obtain ⟨same, given⟩ := first
      rw [nativeOfFields, nativeOfField_of_value given, ih, ← same]
      rfl

theorem names_of_forall₂ {good : Field → Named Native → Prop} {fields : List Field} {entries : List (Named Native)}
    (read : List.Forall₂ (fun field entry => entry.name = field.name ∧ good field entry) fields entries) :
    Named.names entries = Named.names fields := by
  induction read with
  | nil => rfl
  | cons first others ih => exact congrArg₂ List.cons first.1 ih

/-- What is written for a value is what a writer makes of it, or the value itself if no writer takes it; the strict policy
keeps no value of an application's own. -/
theorem writeScalar_eq_ok_iff {leaf stored : Value} :
    converter.writeScalar leaf = .ok stored ↔
      converter.registry.write? leaf = some (.ok stored) ∨
        converter.registry.write? leaf = none ∧ stored = leaf ∧
          (converter.settings.policy = .strict → leaf.kind ≠ .custom) := by
  unfold writeScalar
  cases converter.registry.write? leaf with
  | some result => cases result <;> simp [Except.mapError]
  | none =>
    cases converter.settings.policy <;> cases leaf <;> simp [Value.kind, eq_comm]

/-- What no writer takes is written as it is. -/
theorem writeScalar_of_refused (passThrough : converter.settings.policy = .passThrough) {value : Value}
    (refused : converter.registry.accepts value = false) : converter.writeScalar value = .ok value := by
  have unwritten : converter.registry.write? value = none :=
    Option.not_isSome_iff_eq_none.mp (by simp [Registry.isSome_write?, refused])
  exact writeScalar_eq_ok_iff.mpr (Or.inr ⟨unwritten, rfl, fun strict => nomatch passThrough.symm.trans strict⟩)

theorem nativeOf_of_isLeaf {value : Value} (leaf : value.isLeaf = true) :
    converter.nativeOf value = (converter.writeScalar value).map .scalar := by
  cases value with
  | list items hint => cases leaf
  | map entries => cases leaf
  | document field => cases leaf
  | documents fields => cases leaf
  | _ => rfl

theorem exists_of_mem {α β : Type} {good : α → β → Prop} {items : List α} {others : List β}
    (related : List.Forall₂ good items others) {other : β} (member : other ∈ others) :
    ∃ item ∈ items, good item other := by
  induction related with
  | nil => cases member
  | @cons item first items others holds _ ih =>
    rcases List.mem_cons.mp member with rfl | later
    · exact ⟨item, List.mem_cons_self .., holds⟩
    · obtain ⟨found, present, here⟩ := ih later
      exact ⟨found, List.mem_cons_of_mem item present, here⟩

/-- A list reads back if its elements do and none of them is a map, or all are embedded documents. -/
theorem readsBack_list {layout : Layout} {items : List Value} (hint : Value) {natives : List Native}
    (read : List.Forall₂ (ReadsBack layout) items natives) (apart : ∀ item ∈ items, item.kind ≠ .document)
    (alike : layout = .embedded →
      (∀ item ∈ items, item.kind = .documents) ∨ ∀ item ∈ items, item.kind ≠ .documents) :
    ReadsBack layout (.list items hint) (.list natives) := by
  refine ⟨?_, by simp [Native.isMap, Value.kind]⟩
  have same := withoutHintsAll_valuesOf read
  by_cases maps : natives ≠ [] ∧ layout = .embedded ∧ ∀ item ∈ items, item.kind = .documents
  · obtain ⟨some, rfl, documents⟩ := maps
    have each (native : Native) (member : native ∈ natives) : native.isMap = true := by
      obtain ⟨item, present, back⟩ := exists_of_mem read member
      exact back.isMap.mpr (Or.inr ⟨documents item present, rfl⟩)
    simp [valueOf_list_of_maps some each, Value.expanded, Value.withoutHints, same]
  · have each (native : Native) (member : native ∈ natives) : native.isMap = false := by
      obtain ⟨item, present, back⟩ := exists_of_mem read member
      refine Bool.eq_false_iff.mpr fun isMap => ?_
      rcases back.isMap.mp isMap with document | ⟨documents, embedded⟩
      · exact apart item present document
      · rcases alike embedded with all | none
        · exact maps ⟨List.ne_nil_of_mem member, embedded, all⟩
        · exact none item present documents
    simp [valueOf_list_of_mapless each, Value.expanded, Value.withoutHints, same]

/-- A document reads back if its fields do, from whatever its layout makes of it. -/
theorem readsBack_documents {fields : List Field} {entries : List (Named Native)}
    (read : List.Forall₂ (FieldReadsBack converter.settings.layout) fields entries)
    (apart : converter.settings.layout.TellsApart (.documents fields)) :
    ReadsBack converter.settings.layout (.documents fields) (converter.layOut entries) := by
  have same := withoutHintsFields_fieldsOf read
  unfold layOut
  generalize converter.settings.layout = layout at read apart same
  cases apart with
  | leaf _ leaf => cases leaf
  | singletonDocuments some each =>
    have filled : entries ≠ [] := fun none => some (List.forall₂_nil_right_iff.mp (none ▸ read))
    refine ⟨?_, by simp [Native.isMap, Value.kind]⟩
    simp [valueOf_list_of_entries filled, Value.expanded, Value.withoutHints, same]
  | embeddedDocuments distinct each =>
    have unique : Named.Distinct entries := by rwa [Named.Distinct, names_of_forall₂ read]
    refine ⟨?_, by simp [Native.isMap, Value.kind]⟩
    simp [Named.ofList_of_distinct unique, valueOf, Value.expanded, Value.withoutHints, same]

/-- A plain value that its layout tells apart is written, and reads back. -/
theorem nativeOf_readsBack (passThrough : converter.settings.policy = .passThrough) {value : Value}
    (plain : converter.registry.Plain value) (apart : converter.settings.layout.TellsApart value) :
    ∃ native, converter.nativeOf value = .ok native ∧ ReadsBack converter.settings.layout value native := by
  induction plain with
  | @leaf value leaf refused =>
    refine ⟨.scalar value, ?_, ?_, ?_⟩
    · rw [nativeOf_of_isLeaf leaf, writeScalar_of_refused passThrough refused]
      rfl
    · rw [valueOf, Value.expanded_of_isLeaf leaf]
    · cases value <;> simp [Native.isMap, Value.kind] <;> cases leaf
  | @list items hint apartFrom plain ih =>
    have each : ∀ item ∈ items, converter.settings.layout.TellsApart item := by
      generalize converter.settings.layout = layout at apart
      cases apart with
      | leaf _ leaf => cases leaf
      | singletonList _ each => exact each
      | embeddedList _ _ each => exact each
    have alike : converter.settings.layout = .embedded →
        (∀ item ∈ items, item.kind = .documents) ∨ ∀ item ∈ items, item.kind ≠ .documents := by
      intro embedded
      rw [embedded] at apart
      cases apart with
      | leaf _ leaf => cases leaf
      | embeddedList _ alike _ => exact alike
    obtain ⟨natives, written, read⟩ := nativeOfItems_of_each fun item member => ih item member (each item member)
    exact ⟨.list natives, by rw [nativeOf, written]; rfl, readsBack_list hint read apartFrom alike⟩
  | @document field plain ih =>
    have content : converter.settings.layout.TellsApart field.value := by
      generalize converter.settings.layout = layout at apart
      cases apart with
      | leaf _ leaf => cases leaf
      | document content => exact content
    obtain ⟨native, written, back⟩ := ih content
    refine ⟨.map [⟨field.name, native⟩], by rw [nativeOf, nativeOfField_of_value written]; rfl, ?_, ?_⟩
    · have read : List.Forall₂ (FieldReadsBack converter.settings.layout) [field] [⟨field.name, native⟩] :=
        .cons ⟨rfl, back⟩ .nil
      have same := withoutHintsFields_fieldsOf read
      rw [Value.expandedFields, Value.expandedFields] at same
      simp [valueOf, Value.expanded, Value.withoutHints, same]
    · simp [Native.isMap, Value.kind]
  | @documents fields plain ih =>
    have each : ∀ field ∈ fields, converter.settings.layout.TellsApart field.value := by
      generalize converter.settings.layout = layout at apart
      cases apart with
      | leaf _ leaf => cases leaf
      | singletonDocuments _ each => exact each
      | embeddedDocuments _ each => exact each
    obtain ⟨entries, written, read⟩ := nativeOfFields_of_each fun field member => ih field member (each field member)
    exact ⟨converter.layOut entries, by rw [nativeOf, written]; rfl, readsBack_documents read apart⟩

/-- Fields that have native forms are put into a row one after another. -/
theorem fieldsOnto_of_written {entity : Entity} {fields : List Field} {entries : List (Named Native)}
    (written : converter.nativeOfFields fields = .ok entries) (row : Row) :
    converter.fieldsOnto entity [] row fields = .ok (Named.insertAll row entries) := by
  induction fields generalizing row entries with
  | nil =>
    cases written
    rfl
  | cons field rest ih =>
    obtain ⟨entry, first, others⟩ := Except.of_bind_eq_ok written
    obtain ⟨natives, later, whole⟩ := Except.of_bind_eq_ok others
    cases whole
    obtain ⟨native, given, rfl⟩ := of_nativeOfField_eq_ok first
    simp only [fieldsOnto, given, List.contains_nil, Bool.false_eq_true, if_false, Except.mapError_ok, Except.ok_bind]
    exact ih later _

/-- Fields of new names go behind a row in their order. -/
theorem fieldsOnto_of_nodup {entity : Entity} {row : Row} {fields : List Field} {entries : List (Named Native)}
    (written : converter.nativeOfFields fields = .ok entries)
    (fresh : (Named.names row ++ Named.names fields).Nodup) :
    converter.fieldsOnto entity [] row fields = .ok (row ++ entries) := by
  have names : Named.names entries = Named.names fields := names_of_forall₂ (nativeOfFields_eq_ok_iff.mp written)
  rw [fieldsOnto_of_written written, Named.insertAll_of_nodup (names ▸ fresh)]

/-- Fields of reserved names are passed over. -/
theorem fieldsOnto_eq_filter (converter : Converter) (entity : Entity) (reserved : List String) (row : Row)
    (fields : List Field) :
    converter.fieldsOnto entity reserved row fields =
      converter.fieldsOnto entity [] row (fields.filter fun field => !reserved.contains field.name) := by
  induction fields generalizing row with
  | nil => rfl
  | cons field rest ih =>
    by_cases member : field.name ∈ reserved
    · rw [fieldsOnto, if_pos (by simpa using member), ih, List.filter_cons_of_neg (by simpa using member)]
    · rw [fieldsOnto, if_neg (by simpa using member), List.filter_cons_of_pos (by simpa using member), fieldsOnto,
        if_neg (by simp)]
      exact congrArg _ (funext fun native => ih _)

/-- An entity whose fields of other than reserved names have native forms, and no name twice, is written as these. -/
theorem written_of_distinct {entity : Entity} {reserved : List String} {entries : List (Named Native)}
    (written : converter.nativeOfFields (entity.fields.filter fun field => !reserved.contains field.name) = .ok entries)
    (distinct : Named.Distinct (entity.fields.filter fun field => !reserved.contains field.name)) :
    converter.written entity reserved = .ok entries :=
  (converter.fieldsOnto_eq_filter entity reserved [] entity.fields).trans (fieldsOnto_of_nodup written distinct)

/-- Writing an entity and reading it back gives the entity, if its layout tells its values apart and no writer takes
them. -/
theorem written_entity_reads_back (converter : Converter) (passThrough : converter.settings.policy = .passThrough)
    {entity : Entity} (distinct : Named.Distinct entity.fields)
    (plain : ∀ field ∈ entity.fields, converter.registry.Plain field.value)
    (apart : ∀ field ∈ entity.fields, converter.settings.layout.TellsApart field.value) (state : σ) :
    ∃ row, effect (converter.rowOf entity) state = (.ok row, state) ∧
      (converter.entityOf row entity.collection).withoutHints = entity.expanded.withoutHints := by
  obtain ⟨row, written, read⟩ := nativeOfFields_of_each fun field member =>
    nativeOf_readsBack passThrough (plain field member) (apart field member)
  refine ⟨row, ?_, ?_⟩
  · have whole : converter.written entity [] = .ok row := fieldsOnto_of_nodup written distinct
    rw [rowOf, effect_rowExcluding, whole]
  · exact congrArg (Entity.mk entity.collection) (withoutHintsFields_fieldsOf read)

/-- A list that mixes a document with other values, and a sub-document of a document that has a name twice. -/
theorem written_mixed_list_reads_back :
    let converter : Converter := { registry := .standard }
    let inner : Value := .documents [⟨"a", .text "x"⟩, ⟨"a", .nullList (.text "y")⟩]
    let entity : Entity := ⟨"c", [⟨"m", .list [inner, .boolean true] .null⟩, ⟨"d", .document ⟨"n", inner⟩⟩]⟩
    let read : Value := .documents [⟨"a", .text "x"⟩, ⟨"a", .nullList .null⟩]
    ∃ row, effect (converter.rowOf entity) () = (.ok row, ()) ∧
      (converter.entityOf row "c").withoutHints =
        ⟨"c", [⟨"m", .list [read, .boolean true] .null⟩, ⟨"d", .documents [⟨"n", read⟩]⟩]⟩ := by
  intro converter inner entity read
  have innerPlain : converter.registry.Plain inner := by
    refine .documents fun field member => ?_
    rcases List.mem_pair.mp member with rfl | rfl
    · exact .leaf rfl rfl
    · exact .leaf rfl rfl
  have innerApart : Layout.TellsApart .singleton inner := by
    refine .singletonDocuments (List.cons_ne_nil _ _) fun field member => ?_
    rcases List.mem_pair.mp member with rfl | rfl
    · exact .leaf _ rfl
    · exact .leaf _ rfl
  refine written_entity_reads_back converter rfl ?_ ?_ ?_ ()
  · simp [Named.Distinct, Named.names, entity]
  · intro field member
    rcases List.mem_pair.mp member with rfl | rfl
    · refine .list _ (fun item member => ?_) (fun item member => ?_)
      · rcases List.mem_pair.mp member with rfl | rfl <;> decide
      · rcases List.mem_pair.mp member with rfl | rfl
        · exact innerPlain
        · exact .leaf rfl rfl
    · exact .document innerPlain
  · intro field member
    rcases List.mem_pair.mp member with rfl | rfl
    · refine .singletonList _ fun item member => ?_
      rcases List.mem_pair.mp member with rfl | rfl
      · exact innerApart
      · exact .leaf _ rfl
    · exact .document innerApart

end Converter

end Polystore
