import Polystore.Proofs.Converter.Places
import Polystore.Proofs.Converter.Rewriting

/-!
Lists that mix maps with other native values. Such a list is read without documents: each map in it, at any depth, stays a
map of its names, and each list a list of its length, also the lists of maps that would be documents elsewhere. Nothing is
lost by that, for the value is written as the list that was read.
-/
namespace Polystore

namespace Native

theorem opaqueValue_map (entries : List (Named Native)) :
    (Native.map entries).opaqueValue = .map (entries.map (Named.map opaqueValue)) := by
  rw [opaqueValue, opaqueEntries_eq_map]

theorem opaqueValue_list (items : List Native) :
    (Native.list items).opaqueValue = .list (items.map opaqueValue) .null := by
  rw [opaqueValue, opaqueItems_eq_map]

/-- What an opaque value holds are opaque values, if the scalars hold nothing. -/
theorem of_heldIn_opaqueValue {native : Native} (made : native.MadeOf fun value => value.isLeaf = true) {held : Value}
    (within : held.HeldIn native.opaqueValue) : ∃ inner : Native, inner.HeldIn native ∧ held = inner.opaqueValue := by
  induction made with
  | @scalar value leaf => exact ⟨.scalar value, .whole, within.eq_of_isLeaf leaf⟩
  | @map entries distinct each ih =>
    rw [opaqueValue_map] at within
    cases within with
    | whole => exact ⟨.map entries, .whole, (opaqueValue_map entries).symm⟩
    | inside member further =>
      rw [Value.parts, List.map_map] at member
      obtain ⟨entry, present, rfl⟩ := List.mem_map.mp member
      obtain ⟨inner, inside, same⟩ := ih entry present further
      exact ⟨inner, .inside (List.mem_map_of_mem present) inside, same⟩
  | @list items each ih =>
    rw [opaqueValue_list] at within
    cases within with
    | whole => exact ⟨.list items, .whole, (opaqueValue_list items).symm⟩
    | inside member further =>
      obtain ⟨item, present, rfl⟩ := List.mem_map.mp member
      obtain ⟨inner, inside, same⟩ := ih item present further
      exact ⟨inner, .inside present inside, same⟩

/-- No opaque value is a document. -/
theorem kind_opaqueValue {native : Native} (made : native.MadeOf fun value => value.isLeaf = true) :
    native.opaqueValue.kind ≠ .document ∧ native.opaqueValue.kind ≠ .documents := by
  cases made with
  | @scalar value leaf =>
    rw [opaqueValue]
    cases value <;> simp [Value.kind] <;> cases leaf
  | map => simp [opaqueValue, Value.kind]
  | list => simp [opaqueValue, Value.kind]

theorem MadeOf.heldIn {good : Value → Prop} {native inner : Native} (made : native.MadeOf good)
    (held : inner.HeldIn native) : inner.MadeOf good := by
  induction held with
  | whole => exact made
  | inside member _ ih =>
    cases made with
    | scalar => cases member
    | map _ each =>
      obtain ⟨entry, present, rfl⟩ := List.mem_map.mp member
      exact ih (each entry present)
    | list each => exact ih (each _ member)

/-- A native value is made of scalars as good as those that it holds. -/
theorem MadeOf.of_held {good better : Value → Prop} {native : Native} (made : native.MadeOf good)
    (each : ∀ value, (Native.scalar value).HeldIn native → good value → better value) : native.MadeOf better := by
  induction made with
  | @scalar value holds => exact .scalar (each value .whole holds)
  | map distinct _ ih =>
    exact .map distinct fun entry member =>
      ih entry member fun value held => each value (.inside (List.mem_map_of_mem member) held)
  | list _ ih => exact .list fun item member => ih item member fun value held => each value (.inside member held)

end Native

namespace Layout

/-- What has a place in an opaque value is opaque. -/
theorem Places.eq_opaqueValue {layout : Layout} {part value : Value} {image native : Native}
    (placed : layout.Places part image value native) (isOpaque : value = native.opaqueValue) :
    part = image.opaqueValue := by
  induction placed with
  | whole => exact isOpaque
  | @item items natives hint item native place given found inside ih =>
    rw [Native.opaqueValue_list] at isOpaque
    cases isOpaque
    rw [List.getElem?_map, found] at given
    exact ih (Option.some.inj given).symm
  | @entry fields entries field entry place given found inside ih =>
    rw [Native.opaqueValue_map] at isOpaque
    cases isOpaque
    rw [List.getElem?_map, found] at given
    cases given
    exact ih rfl
  | document => simp [Native.opaqueValue] at isOpaque
  | listed => simp [Native.opaqueValue] at isOpaque
  | embedded => simp [Native.opaqueValue] at isOpaque

/-- Whatever a native value holds has a place in its opaque value. -/
theorem places_opaqueValue (layout : Layout) {native inner : Native} (held : inner.HeldIn native) :
    layout.Places inner.opaqueValue inner native.opaqueValue native := by
  induction held with
  | whole => exact .whole
  | @inside native direct member _ ih =>
    cases native with
    | scalar value => cases member
    | map entries =>
      obtain ⟨entry, present, rfl⟩ := List.mem_map.mp member
      obtain ⟨place, found⟩ := List.mem_iff_getElem?.mp present
      rw [Native.opaqueValue_map]
      exact .entry (by rw [List.getElem?_map, found]; rfl) found ih
    | list items =>
      obtain ⟨place, found⟩ : ∃ place : Nat, items[place]? = some direct := List.mem_iff_getElem?.mp member
      rw [Native.opaqueValue_list]
      exact .item (by rw [List.getElem?_map, found]; rfl) found ih

end Layout

namespace Converter

/-- A list that mixes maps with others is read as its opaque value, whatever the layout. -/
theorem valueOf_of_mixed (layout : Layout) {items : List Native} (someMap : ∃ item ∈ items, item.isMap = true)
    (someOther : ∃ item ∈ items, item.isMap = false) :
    valueOf layout (.list items) = (Native.list items).opaqueValue := by
  obtain ⟨map, mapMember, isMap⟩ := someMap
  obtain ⟨other, otherMember, isOther⟩ := someOther
  rcases valueOf_list_cases layout items with ⟨_, maps⟩ | mapless | isOpaque
  · rw [maps other otherMember] at isOther
    cases isOther
  · rw [mapless map mapMember] at isMap
    cases isMap
  · exact isOpaque

/-- A list that mixes maps with other values is read as a list without documents, which loses nothing and is written
back as it was. -/
theorem mixed_lists_degrade_without_loss (converter : Converter) {items : List Native}
    (someMap : ∃ item ∈ items, item.isMap = true) (someOther : ∃ item ∈ items, item.isMap = false)
    (made : (Native.list items).MadeOf fun value => value.isLeaf = true) :
    ∃ values, converter.read (.list items) = .list values .null ∧ values.length = items.length ∧
      (∀ part : Value, part.HeldIn (.list values .null) → part.kind ≠ .document ∧ part.kind ≠ .documents) ∧
      (∀ inner : Native, inner.HeldIn (.list items) →
        ∃ part, converter.settings.layout.Places part inner (.list values .null) (.list items)) ∧
      (∀ part entries, converter.settings.layout.Places part (.map entries) (.list values .null) (.list items) →
        ∃ others, part = .map others ∧ Named.names others = Named.names entries) ∧
      (converter.settings.policy = .passThrough →
        (∀ value, (Native.scalar value).HeldIn (.list items) → converter.registry.accepts value = false) →
        converter.nativeOf (.list values .null) = .ok (.list items)) := by
  have shown := Native.opaqueValue_list items
  refine ⟨items.map Native.opaqueValue, ?_, List.length_map .., ?_, ?_, ?_, ?_⟩
  · exact (valueOf_of_mixed converter.settings.layout someMap someOther).trans shown
  · intro part held
    obtain ⟨inner, within, rfl⟩ := Native.of_heldIn_opaqueValue made (shown ▸ held)
    exact Native.kind_opaqueValue (made.heldIn within)
  · intro inner held
    exact ⟨inner.opaqueValue, shown ▸ converter.settings.layout.places_opaqueValue held⟩
  · intro part entries placed
    refine ⟨entries.map (Named.map Native.opaqueValue), ?_, Named.names_map ..⟩
    rw [placed.eq_opaqueValue shown.symm, Native.opaqueValue_map]
  · intro passThrough refused
    rw [← shown]
    exact nativeOf_opaqueValue passThrough (made.of_held fun value held leaf => ⟨leaf, refused value held⟩)

/-- A list of maps inside a map of a mixed list: no document is made of it, and the whole is written as it was. -/
theorem nested_maps_degrade_without_loss :
    let converter : Converter := { registry := .standard }
    let inner : Native := .list [.map [⟨"k", .scalar (.text "x")⟩]]
    let items : List Native := [.map [⟨"z", .scalar .null⟩, ⟨"a", inner⟩], .scalar (.boolean true)]
    let values : List Value :=
      [.map [⟨"z", .null⟩, ⟨"a", .list [.map [⟨"k", .text "x"⟩]] .null⟩], .boolean true]
    converter.read (.list items) = .list values .null ∧ converter.read inner = .documents [⟨"k", .text "x"⟩] ∧
      (∀ part : Value, part.HeldIn (.list values .null) → part.kind ≠ .document ∧ part.kind ≠ .documents) ∧
      converter.nativeOf (.list values .null) = .ok (.list items) := by
  intro converter inner items values
  have innerMade : inner.MadeOf converter.registry.Spares := by
    refine .list fun item member => ?_
    rw [List.mem_singleton.mp member]
    refine .map (by simp [Named.Distinct, Named.names]) fun entry inside => ?_
    rw [List.mem_singleton.mp inside]
    exact .scalar ⟨rfl, rfl⟩
  have made : (Native.list items).MadeOf converter.registry.Spares := by
    refine .list fun item member => ?_
    rcases List.mem_pair.mp member with rfl | rfl
    · refine .map (by simp [Named.Distinct, Named.names]) fun entry inside => ?_
      rcases List.mem_pair.mp inside with rfl | rfl
      · exact .scalar ⟨rfl, rfl⟩
      · exact innerMade
    · exact .scalar ⟨rfl, rfl⟩
  obtain ⟨read, given, _, documentless, _, _, again⟩ := mixed_lists_degrade_without_loss converter
    ⟨_, List.mem_cons_self .., rfl⟩ ⟨.scalar (.boolean true), by simp, rfl⟩ (made.of_held fun _ _ spared => spared.1)
  have same : converter.read (.list items) = .list values .null := rfl
  cases same.symm.trans given
  refine ⟨rfl, rfl, documentless, again rfl fun value held => ?_⟩
  cases made.heldIn held with
  | scalar spared => exact spared.2

end Converter

end Polystore
