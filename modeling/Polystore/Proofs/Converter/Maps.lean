import Polystore.Proofs.Converter.RoundTrip
import Polystore.Proofs.Named
import Polystore.Proofs.Value.Equality

/-!
The maps inside native values. However often a value repeats a name, what is written of it is made of maps in which no
name occurs twice, provided that the writers make such maps.
-/
namespace Polystore

namespace Value

theorem allMapsDistinct_iff {items : List Value} : AllMapsDistinct items ↔ ∀ item ∈ items, item.MapsDistinct := by
  induction items with
  | nil => simp [AllMapsDistinct]
  | cons item rest ih => simp [AllMapsDistinct, ih]

theorem fieldMapsDistinct_iff {fields : List (Named Value)} :
    FieldMapsDistinct fields ↔ ∀ field ∈ fields, field.value.MapsDistinct := by
  induction fields with
  | nil => simp [FieldMapsDistinct]
  | cons field rest ih =>
    have here : InMapsDistinct field ↔ field.value.MapsDistinct := by rw [InMapsDistinct]
    simp [FieldMapsDistinct, ih, here]

theorem mapsDistinct_of_isLeaf {value : Value} (leaf : value.isLeaf = true) : value.MapsDistinct := by
  cases value <;> trivial

end Value

namespace Native

/-- The maps inside a native value have no name twice. -/
def MapsDistinct (native : Native) : Prop := native.opaqueValue.MapsDistinct

theorem mapsDistinct_list {items : List Native} (each : ∀ item ∈ items, item.MapsDistinct) :
    (Native.list items).MapsDistinct := by
  rw [MapsDistinct, opaqueValue, opaqueItems_eq_map, Value.MapsDistinct, Value.allMapsDistinct_iff]
  intro item member
  obtain ⟨native, present, rfl⟩ := List.mem_map.mp member
  exact each native present

theorem mapsDistinct_map {entries : List (Named Native)} (distinct : Named.Distinct entries)
    (each : ∀ entry ∈ entries, entry.value.MapsDistinct) : (Native.map entries).MapsDistinct := by
  rw [MapsDistinct, opaqueValue, opaqueEntries_eq_map, Value.MapsDistinct, Value.fieldMapsDistinct_iff]
  constructor
  · rw [Named.Distinct, Named.names_map]
    exact distinct
  · intro field member
    obtain ⟨entry, present, rfl⟩ := List.mem_map.mp member
    exact each entry present

end Native

/-- A map holds each name once, and the writers of a registry keep to that: what they make has no map with a name
twice. -/
def Registry.WritesMaps (registry : Registry) : Prop :=
  ∀ value written, registry.write? value = some (.ok written) → written.MapsDistinct

namespace Converter

variable {converter : Converter}

theorem mapsDistinct_writeScalar (maps : converter.registry.WritesMaps) {value written : Value}
    (leaf : value.isLeaf = true) (gives : converter.writeScalar value = .ok written) : written.MapsDistinct := by
  unfold writeScalar at gives
  cases writer : converter.registry.write? value with
  | some result =>
    rw [writer] at gives
    exact maps value written (writer.trans (congrArg some (Except.of_mapError_eq_ok gives)))
  | none =>
    rw [writer] at gives
    simp only at gives
    split at gives
    · cases gives
    · cases gives
      exact Value.mapsDistinct_of_isLeaf leaf

theorem mapsDistinct_layOut {entries : List (Named Native)} (each : ∀ entry ∈ entries, entry.value.MapsDistinct) :
    (converter.layOut entries).MapsDistinct := by
  unfold layOut
  split
  · refine Native.mapsDistinct_list fun item member => ?_
    obtain ⟨entry, present, rfl⟩ := List.mem_map.mp member
    refine Native.mapsDistinct_map (List.nodup_singleton _) fun other inside => ?_
    rw [List.mem_singleton.mp inside]
    exact each entry present
  · exact Native.mapsDistinct_map (Named.distinct_ofList entries) fun entry member =>
      each entry (Named.mem_of_mem_ofList member)

mutual

/-- What a value is written as has no map with a name twice. -/
theorem mapsDistinct_nativeOf (maps : converter.registry.WritesMaps) :
    (value : Value) → ∀ {native : Native}, converter.nativeOf value = .ok native → native.MapsDistinct
  | .document field, _, gives => by
    obtain ⟨entry, written, rfl⟩ := Except.of_map_eq_ok gives
    refine Native.mapsDistinct_map (List.nodup_singleton _) fun other member => ?_
    rw [List.mem_singleton.mp member]
    exact mapsDistinct_nativeOfField maps field written
  | .documents fields, _, gives => by
    obtain ⟨entries, written, rfl⟩ := Except.of_map_eq_ok gives
    exact mapsDistinct_layOut (mapsDistinct_nativeOfFields maps fields written)
  | .list items _, _, gives => by
    obtain ⟨natives, written, rfl⟩ := Except.of_map_eq_ok gives
    exact Native.mapsDistinct_list (mapsDistinct_nativeOfItems maps items written)
  | .map entries, _, gives => by
    obtain ⟨natives, written, rfl⟩ := Except.of_map_eq_ok gives
    exact Native.mapsDistinct_map (Named.distinct_ofList natives) fun entry member =>
      mapsDistinct_nativeOfFields maps entries written entry (Named.mem_of_mem_ofList member)
  | .null, _, gives | .scalar _ _, _, gives | .nullList _, _, gives | .nullMap, _, gives | .custom _, _, gives => by
    obtain ⟨written, given, rfl⟩ := Except.of_map_eq_ok gives
    exact mapsDistinct_writeScalar maps rfl given

theorem mapsDistinct_nativeOfItems (maps : converter.registry.WritesMaps) :
    (items : List Value) → ∀ {natives : List Native}, converter.nativeOfItems items = .ok natives →
      ∀ native ∈ natives, native.MapsDistinct
  | [], _, gives => by
    cases gives
    simp
  | item :: rest, _, gives => by
    obtain ⟨first, given, others⟩ := Except.of_bind_eq_ok gives
    obtain ⟨more, behind, whole⟩ := Except.of_bind_eq_ok others
    cases whole
    intro native member
    rcases List.mem_cons.mp member with rfl | later
    · exact mapsDistinct_nativeOf maps item given
    · exact mapsDistinct_nativeOfItems maps rest behind native later

theorem mapsDistinct_nativeOfField (maps : converter.registry.WritesMaps) :
    (field : Named Value) → ∀ {entry : Named Native}, converter.nativeOfField field = .ok entry →
      entry.value.MapsDistinct
  | ⟨_, value⟩, _, gives => by
    obtain ⟨native, given, rfl⟩ := Except.of_map_eq_ok gives
    exact mapsDistinct_nativeOf maps value given

theorem mapsDistinct_nativeOfFields (maps : converter.registry.WritesMaps) :
    (fields : List (Named Value)) → ∀ {entries : List (Named Native)}, converter.nativeOfFields fields = .ok entries →
      ∀ entry ∈ entries, entry.value.MapsDistinct
  | [], _, gives => by
    cases gives
    simp
  | field :: rest, _, gives => by
    obtain ⟨first, given, others⟩ := Except.of_bind_eq_ok gives
    obtain ⟨more, behind, whole⟩ := Except.of_bind_eq_ok others
    cases whole
    intro entry member
    rcases List.mem_cons.mp member with rfl | later
    · exact mapsDistinct_nativeOfField maps field given
    · exact mapsDistinct_nativeOfFields maps rest behind entry later

end

end Converter

end Polystore
