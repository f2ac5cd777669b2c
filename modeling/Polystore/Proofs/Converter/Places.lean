import Polystore.Proofs.Converter.Maps
import Polystore.Proofs.Converter.Occurrences

/-!
Where the parts of a value are found in what it is written as. Items have the places of items, entries of maps those of
entries, and the fields of documents those that the layout gives them. Where documents become lists of maps, every field
has an entry of its own; where they become maps, fields that share a name share an entry, which the last of them has.
-/
namespace Polystore

/-- The fields of a sub-document. -/
def Value.subfields? : Value → Option (List Field)
  | .document field => some [field]
  | .documents fields => some fields
  | _ => none

/-- The entries found in the place of a document: those of a map, or those of the maps of a list, in order. -/
def Native.entries : Native → List (Named Native)
  | .scalar _ => []
  | .map entries => entries
  | .list items => items.flatMap fun item => item.asMap?.getD []

/-- A part of a value, and what stands in its place in a native value. -/
inductive Layout.Places (layout : Layout) (part : Value) (image : Native) : Value → Native → Prop where
  | whole : Places layout part image part image
  | item {items : List Value} {natives : List Native} {hint item : Value} {native : Native} {place : Nat}
    (given : items[place]? = some item) (found : natives[place]? = some native)
    (inside : Places layout part image item native) : Places layout part image (.list items hint) (.list natives)
  | entry {fields : List (Named Value)} {entries : List (Named Native)} {field : Named Value} {entry : Named Native}
    {place : Nat} (given : fields[place]? = some field) (found : entries[place]? = some entry)
    (inside : Places layout part image field.value entry.value) : Places layout part image (.map fields) (.map entries)
  | document {field : Field} {entry : Named Native} (inside : Places layout part image field.value entry.value) :
    Places layout part image (.document field) (.map [entry])
  | listed (singleton : layout = .singleton) {fields : List Field} {natives : List Native} {field : Field}
    {entry : Named Native} {place : Nat} (given : fields[place]? = some field)
    (found : natives[place]? = some (.map [entry])) (inside : Places layout part image field.value entry.value) :
    Places layout part image (.documents fields) (.list natives)
  | embedded (embedded : layout = .embedded) {fields : List Field} {entries : List (Named Native)} {field : Field}
    {native : Native} (last : (fields.filter fun other => other.name = field.name).getLast? = some field)
    (found : Named.find? entries field.name = some native) (inside : Places layout part image field.value native) :
    Places layout part image (.documents fields) (.map entries)

/-- What stands beside each other in two lists is related if the lists are. -/
theorem exists_beside {α β : Type} {good : α → β → Prop} {items : List α} {others : List β}
    (related : List.Forall₂ good items others) {place : Nat} {item : α} (given : items[place]? = some item) :
    ∃ other, others[place]? = some other ∧ good item other := by
  induction related generalizing place with
  | nil => cases given
  | @cons first other rest more holds _ ih =>
    cases place with
    | zero =>
      cases given
      exact ⟨other, rfl, holds⟩
    | succ place => exact ih given

theorem Value.mapsDistinct_of_mem_parts {value part : Value} (maps : value.MapsDistinct) (member : part ∈ value.parts) :
    part.MapsDistinct := by
  cases value with
  | list items hint => exact allMapsDistinct_iff.mp maps part member
  | map entries =>
    obtain ⟨entry, present, rfl⟩ := List.mem_map.mp member
    exact fieldMapsDistinct_iff.mp maps.2 entry present
  | document field =>
    rw [MapsDistinct, InMapsDistinct] at maps
    exact List.mem_singleton.mp member ▸ maps
  | documents fields =>
    obtain ⟨field, present, rfl⟩ := List.mem_map.mp member
    exact fieldMapsDistinct_iff.mp maps field present
  | _ => cases member

namespace Converter

/-- All of some fields are found in the place of a document, in their order, each as what it is written as. -/
def Keeps (converter : Converter) (fields : List Field) (image : Native) : Prop :=
  List.Forall₂ (fun field entry => entry.name = field.name ∧ converter.nativeOf field.value = .ok entry.value) fields
    image.entries

variable {converter : Converter}

theorem entries_layOut (converter : Converter) (entries : List (Named Native)) :
    (converter.layOut entries).entries =
      match converter.settings.layout with
      | .singleton => entries
      | .embedded => Named.ofList entries := by
  cases layout : converter.settings.layout with
  | singleton =>
    rw [layOut, layout]
    induction entries with
    | nil => rfl
    | cons entry rest ih => exact congrArg (List.cons entry) ih
  | embedded =>
    rw [layOut, layout]
    rfl

/-- A map holds each name once, so what it is filled with keeps the places of its entries. -/
theorem exists_entries_of_map {fields : List (Named Value)} {native : Native} (distinct : Named.Distinct fields)
    (written : converter.nativeOf (.map fields) = .ok native) :
    ∃ entries, converter.nativeOfFields fields = .ok entries ∧ native = .map entries := by
  rw [nativeOf] at written
  obtain ⟨entries, given, rfl⟩ := Except.of_map_eq_ok written
  have unique : Named.Distinct entries := by
    rw [Named.Distinct, names_of_forall₂ (nativeOfFields_eq_ok_iff.mp given)]
    exact distinct
  exact ⟨entries, given, by rw [Named.ofList_of_distinct unique]⟩

/-- What stands in the place of a part is what the part is written as. -/
theorem nativeOf_of_places {value part : Value} {native image : Native}
    (placed : converter.settings.layout.Places part image value native) (maps : value.MapsDistinct)
    (written : converter.nativeOf value = .ok native) : converter.nativeOf part = .ok image := by
  induction placed with
  | whole => exact written
  | item given found inside ih =>
    rw [nativeOf] at written
    obtain ⟨natives, each, same⟩ := Except.of_map_eq_ok written
    cases same
    obtain ⟨other, beside, shown⟩ := exists_beside (nativeOfItems_eq_ok_iff.mp each) given
    cases beside.symm.trans found
    exact ih (Value.mapsDistinct_of_mem_parts maps (List.mem_of_getElem? given)) shown
  | @entry fields entries field entry place given found inside ih =>
    obtain ⟨others, each, same⟩ := exists_entries_of_map maps.1 written
    cases same
    obtain ⟨other, beside, _, shown⟩ := exists_beside (nativeOfFields_eq_ok_iff.mp each) given
    cases beside.symm.trans found
    have member : field.value ∈ (Value.map fields).parts := List.mem_map_of_mem (List.mem_of_getElem? given)
    exact ih (Value.mapsDistinct_of_mem_parts maps member) shown
  | @document field entry inside ih =>
    rw [nativeOf] at written
    obtain ⟨other, given, same⟩ := Except.of_map_eq_ok written
    cases same
    obtain ⟨native, shown, rfl⟩ := of_nativeOfField_eq_ok given
    exact ih (Value.mapsDistinct_of_mem_parts maps (List.mem_singleton_self _)) shown
  | @listed singleton fields natives field entry place given found inside ih =>
    rw [nativeOf] at written
    obtain ⟨entries, each, same⟩ := Except.of_map_eq_ok written
    obtain ⟨other, beside, _, shown⟩ := exists_beside (nativeOfFields_eq_ok_iff.mp each) given
    have listed : natives = entries.map fun entry => .map [entry] := by
      rw [layOut, singleton] at same
      exact (Native.list.inj same).symm
    rw [listed, List.getElem?_map, beside] at found
    cases found
    have member : field.value ∈ (Value.documents fields).parts := List.mem_map_of_mem (List.mem_of_getElem? given)
    exact ih (Value.mapsDistinct_of_mem_parts maps member) shown
  | @embedded embedded fields entries field native last found inside ih =>
    rw [nativeOf] at written
    obtain ⟨others, each, same⟩ := Except.of_map_eq_ok written
    have filled : entries = Named.ofList others := by
      rw [layOut, embedded] at same
      exact (Native.map.inj same).symm
    obtain ⟨other, shown, beside⟩ := (records_ofList each).last _ _ last
    rw [filled, beside] at found
    cases found
    have member : field.value ∈ (Value.documents fields).parts :=
      List.mem_map_of_mem (List.mem_filter.mp (List.mem_of_getLast? last)).1
    exact ih (Value.mapsDistinct_of_mem_parts maps member) shown

/-- The entries found in the place of a document are those that its fields are written as, filled into a map where
documents become maps. -/
theorem exists_entries {document : Value} {image : Native} {fields : List Field}
    (isDocument : document.subfields? = some fields) (written : converter.nativeOf document = .ok image) :
    ∃ entries, converter.nativeOfFields fields = .ok entries ∧
      image.entries =
        match converter.settings.layout with
        | .singleton => entries
        | .embedded => Named.ofList entries := by
  cases document with
  | document field =>
    cases isDocument
    rw [nativeOf] at written
    obtain ⟨entry, given, rfl⟩ := Except.of_map_eq_ok written
    refine ⟨[entry], by rw [nativeOfFields, given]; rfl, ?_⟩
    cases converter.settings.layout <;> rfl
  | documents fields =>
    cases isDocument
    rw [nativeOf] at written
    obtain ⟨entries, given, rfl⟩ := Except.of_map_eq_ok written
    exact ⟨entries, given, converter.entries_layOut entries⟩
  | _ => cases isDocument

/-- Where documents become lists of maps, all fields of a document are kept; where they become maps, all are kept just
when no name occurs twice, and otherwise the last of each name. -/
theorem keeps_iff {document : Value} {image : Native} {fields : List Field}
    (isDocument : document.subfields? = some fields) (written : converter.nativeOf document = .ok image) :
    (converter.Keeps fields image ↔ converter.settings.layout = .singleton ∨ Named.Distinct fields) ∧
      (converter.settings.layout = .embedded → converter.Records fields image.entries) := by
  obtain ⟨entries, given, found⟩ := exists_entries isDocument written
  have keeps : converter.Keeps fields image ↔ image.entries = entries := by
    rw [Keeps, ← nativeOfFields_eq_ok_iff, given]
    exact ⟨fun same => (Except.ok.inj same).symm, fun same => congrArg Except.ok same.symm⟩
  have distinct : Named.Distinct entries ↔ Named.Distinct fields := by
    rw [Named.Distinct, names_of_forall₂ (nativeOfFields_eq_ok_iff.mp given)]
    rfl
  cases layout : converter.settings.layout with
  | singleton =>
    rw [layout] at found
    exact ⟨keeps.trans ⟨fun _ => Or.inl rfl, fun _ => found⟩, fun embedded => by cases embedded⟩
  | embedded =>
    rw [layout] at found
    refine ⟨?_, fun _ => found ▸ records_ofList given⟩
    rw [keeps, found, Named.ofList_eq_self_iff, distinct]
    simp

/-- A part that a value is directly made of has a place, and with it all that has one in there, unless it is in a field
that a later one of its name overwrites. -/
theorem exists_place_of_part {value : Value} {native : Native} (maps : value.MapsDistinct)
    (written : converter.nativeOf value = .ok native) {direct : Value} (member : direct ∈ value.parts) :
    (∃ inner, converter.nativeOf direct = .ok inner ∧ ∀ part image,
      converter.settings.layout.Places part image direct inner →
        converter.settings.layout.Places part image value native) ∨
      converter.settings.layout = .embedded ∧ ∃ before field behind,
        value = .documents (before ++ field :: behind) ∧ field.name ∈ Named.names behind ∧ direct = field.value := by
  cases value with
  | list items hint =>
    rw [nativeOf] at written
    obtain ⟨natives, each, rfl⟩ := Except.of_map_eq_ok written
    obtain ⟨place, given⟩ := List.mem_iff_getElem?.mp member
    obtain ⟨inner, beside, shown⟩ := exists_beside (nativeOfItems_eq_ok_iff.mp each) given
    exact Or.inl ⟨inner, shown, fun _ _ inside => .item given beside inside⟩
  | map fields =>
    obtain ⟨entries, each, rfl⟩ := exists_entries_of_map maps.1 written
    obtain ⟨field, present, rfl⟩ := List.mem_map.mp member
    obtain ⟨place, given⟩ := List.mem_iff_getElem?.mp present
    obtain ⟨entry, beside, _, shown⟩ := exists_beside (nativeOfFields_eq_ok_iff.mp each) given
    exact Or.inl ⟨entry.value, shown, fun _ _ inside => .entry given beside inside⟩
  | document field =>
    rw [nativeOf] at written
    obtain ⟨entry, given, rfl⟩ := Except.of_map_eq_ok written
    obtain ⟨native, shown, rfl⟩ := of_nativeOfField_eq_ok given
    cases List.mem_singleton.mp member
    exact Or.inl ⟨native, shown, fun _ _ inside => .document inside⟩
  | documents fields =>
    rw [nativeOf] at written
    obtain ⟨entries, each, rfl⟩ := Except.of_map_eq_ok written
    obtain ⟨field, present, rfl⟩ := List.mem_map.mp member
    cases layout : converter.settings.layout with
    | singleton =>
      obtain ⟨place, given⟩ := List.mem_iff_getElem?.mp present
      obtain ⟨⟨name, inner⟩, beside, _, shown⟩ := exists_beside (nativeOfFields_eq_ok_iff.mp each) given
      refine Or.inl ⟨inner, shown, fun part image inside => ?_⟩
      rw [layOut, layout]
      exact .listed rfl given (by rw [List.getElem?_map, beside]; rfl) inside
    | embedded =>
      obtain ⟨before, behind, rfl⟩ := List.append_of_mem present
      -- Only the last field of a name has what is under the name.
      by_cases overwritten : field.name ∈ Named.names behind
      · exact Or.inr ⟨rfl, before, field, behind, rfl, overwritten, rfl⟩
      · have last := Named.getLast?_of_not_mem overwritten before
        obtain ⟨inner, shown, found⟩ := (records_ofList each).last _ _ last
        refine Or.inl ⟨inner, shown, fun part image inside => ?_⟩
        rw [layOut, layout]
        exact .embedded rfl last found inside
  | _ => cases member

theorem exists_place {value part : Value} {native : Native} (maps : value.MapsDistinct)
    (written : converter.nativeOf value = .ok native) (held : part.HeldIn value) :
    (∃ image, converter.settings.layout.Places part image value native) ∨
      converter.settings.layout = .embedded ∧ ∃ image before field behind,
        converter.settings.layout.Places (.documents (before ++ field :: behind)) image value native ∧
          field.name ∈ Named.names behind ∧ part.HeldIn field.value := by
  induction held generalizing native with
  | whole => exact Or.inl ⟨native, .whole⟩
  | inside member within ih =>
    rcases exists_place_of_part maps written member with
      ⟨inner, shown, step⟩ | ⟨embedded, before, field, behind, rfl, overwritten, rfl⟩
    · rcases ih (Value.mapsDistinct_of_mem_parts maps member) shown with
        ⟨image, inside⟩ | ⟨embedded, image, before, field, behind, inside, overwritten, further⟩
      · exact Or.inl ⟨image, step part image inside⟩
      · exact Or.inr ⟨embedded, image, before, field, behind, step _ image inside, overwritten, further⟩
    · exact Or.inr ⟨embedded, native, before, field, behind, .whole, overwritten, within⟩

/-- Where no writer is registered and nothing is refused, everything is written. -/
theorem exists_nativeOf_of_bare (layout : Layout) (value : Value) :
    ∃ native, ({ settings := ⟨.passThrough, layout⟩ } : Converter).nativeOf value = .ok native := by
  refine exists_nativeOf_iff.mpr fun leaf _ _ => ⟨leaf, writeScalar_of_refused rfl ?_⟩
  cases leaf <;> rfl

/-- Every document in a value is found in its place with all its fields; only where documents become maps does a field
give way to a later one of its name. -/
theorem documents_are_found_with_fields (layout : Layout) {value : Value} (maps : value.MapsDistinct) :
    let converter : Converter := { settings := ⟨.passThrough, layout⟩ }
    ∃ native, converter.nativeOf value = .ok native ∧
      (∀ part image fields, layout.Places part image value native → part.subfields? = some fields →
        (converter.Keeps fields image ↔ layout = .singleton ∨ Named.Distinct fields) ∧
          (layout = .embedded → converter.Records fields image.entries)) ∧
      ∀ part : Value, part.HeldIn value →
        (∃ image, layout.Places part image value native) ∨
          layout = .embedded ∧ ∃ image before field behind,
            layout.Places (.documents (before ++ field :: behind)) image value native ∧
              field.name ∈ Named.names behind ∧ part.HeldIn field.value := by
  intro converter
  obtain ⟨native, written⟩ := exists_nativeOf_of_bare layout value
  refine ⟨native, written, fun part image fields placed isDocument => ?_, fun part held => ?_⟩
  · exact keeps_iff isDocument (nativeOf_of_places placed maps written)
  · exact exists_place maps written held

/-- A document of which a name occurs twice is kept as a list of maps. -/
theorem repeated_field_is_listed :
    let converter : Converter := { settings := ⟨.passThrough, .singleton⟩ }
    let fields : List Field := [⟨"a", .text "x"⟩, ⟨"a", .text "y"⟩]
    let value : Value := .list [.documents fields, .boolean true] .null
    value.MapsDistinct ∧ ∃ native image, converter.nativeOf value = .ok native ∧
      Layout.singleton.Places (.documents fields) image value native ∧ converter.Keeps fields image := by
  intro converter fields value
  have maps : value.MapsDistinct := by
    simp [value, fields, Value.MapsDistinct, Value.AllMapsDistinct, Value.FieldMapsDistinct, Value.InMapsDistinct,
      Value.text, Value.boolean]
  obtain ⟨native, written, found, places⟩ := documents_are_found_with_fields .singleton maps
  have held : (Value.documents fields).HeldIn value := .inside (List.mem_cons_self ..) .whole
  obtain ⟨image, placed⟩ := (places _ held).resolve_right (by rintro ⟨embedded, _⟩; cases embedded)
  exact ⟨maps, native, image, written, placed, (found _ _ _ placed rfl).1.mpr (Or.inl rfl)⟩

/-- Where documents become maps, the first of two fields of a name is lost, and nothing warns of it. -/
theorem repeated_field_is_lost :
    let converter : Converter := { settings := ⟨.passThrough, .embedded⟩ }
    let fields : List Field := [⟨"a", .text "x"⟩, ⟨"a", .text "y"⟩]
    let image : Native := .map [⟨"a", .scalar (.text "y")⟩]
    converter.nativeOf (.documents fields) = .ok image ∧
      Layout.embedded.Places (.documents fields) image (.documents fields) image ∧ ¬ converter.Keeps fields image := by
  intro converter fields image
  refine ⟨rfl, .whole, fun keeps => ?_⟩
  have length : fields.length = image.entries.length := keeps.length_eq
  cases length

end Converter

end Polystore
