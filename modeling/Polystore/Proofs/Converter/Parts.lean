import Polystore.Proofs.Converter.RoundTrip
import Polystore.Proofs.Named

/-!
What values and native values are made of. A value holds the items of its lists, and what its maps and documents have
under their names, at any depth; what it is written as is made of what the values that it holds are written as.
-/
namespace Polystore

namespace Value

/-- The values that a value is directly made of. The hint of a list says what its items are like, and is none of them. -/
def parts : Value → List Value
  | .list items _ => items
  | .map entries => entries.map Named.value
  | .document field => [field.value]
  | .documents fields => fields.map Named.value
  | .null | .scalar _ _ | .nullList _ | .nullMap | .custom _ => []

/-- A value is held in another, at any depth, or is the other itself. -/
inductive HeldIn (held : Value) : Value → Prop where
  | whole : HeldIn held held
  | inside {value part : Value} (member : part ∈ value.parts) (within : HeldIn held part) : HeldIn held value

/-- What holds of a value once it holds of its parts holds of all values. -/
@[elab_as_elim]
theorem nested {motive : Value → Prop} (step : ∀ value, (∀ part ∈ value.parts, motive part) → motive value)
    (value : Value) : motive value := by
  have bare (leaf : Value) (noParts : leaf.parts = []) : motive leaf := step leaf (by simp [noParts])
  refine @Value.rec motive (fun items => ∀ item ∈ items, motive item)
    (fun fields => ∀ part ∈ fields.map Named.value, motive part) (fun field => motive field.value)
    (bare _ rfl) (fun _ _ => bare _ rfl) (fun _ _ => bare _ rfl) (fun items hint each _ => step (.list items hint) each)
    (bare _ rfl) (fun entries each => step (.map entries) each) ?document (fun fields each => step (.documents fields) each)
    (fun _ => bare _ rfl) ?noItem ?items ?noField ?fields (fun _ _ holds => holds) value
  case document => exact fun field holds => step (.document field) (List.forall_mem_singleton.mpr holds)
  case noItem => exact List.forall_mem_nil motive
  case items => exact fun item rest first others => List.forall_mem_cons.mpr ⟨first, others⟩
  case noField => exact List.forall_mem_nil motive
  case fields => exact fun field rest first others => List.forall_mem_cons.mpr ⟨first, others⟩

theorem parts_of_isLeaf {value : Value} (leaf : value.isLeaf = true) : value.parts = [] := by
  cases value with
  | list items hint => cases leaf
  | map entries => cases leaf
  | document field => cases leaf
  | documents fields => cases leaf
  | _ => rfl

theorem HeldIn.eq_of_isLeaf {held value : Value} (within : held.HeldIn value) (leaf : value.isLeaf = true) :
    held = value := by
  cases within with
  | whole => rfl
  | inside member _ =>
    rw [parts_of_isLeaf leaf] at member
    cases member

end Value

namespace Native

/-- The native values that a native value is directly made of. -/
def parts : Native → List Native
  | .scalar _ => []
  | .map entries => entries.map Named.value
  | .list items => items

/-- A native value is held in another, at any depth, or is the other itself. -/
inductive HeldIn (held : Native) : Native → Prop where
  | whole : HeldIn held held
  | inside {native part : Native} (member : part ∈ native.parts) (within : HeldIn held part) : HeldIn held native

end Native

theorem Except.exists_map_iff {ε α β : Type} {result : Except ε α} {change : α → β} :
    (∃ changed, result.map change = .ok changed) ↔ ∃ value, result = .ok value := by
  constructor
  · rintro ⟨_, gives⟩
    obtain ⟨value, given, _⟩ := Except.of_map_eq_ok gives
    exact ⟨value, given⟩
  · rintro ⟨value, rfl⟩
    exact ⟨change value, rfl⟩

namespace Converter

variable {converter : Converter}

/-- Values have native forms together just when each has one. -/
theorem exists_nativeOfItems_iff {items : List Value} :
    (∃ natives, converter.nativeOfItems items = .ok natives) ↔
      ∀ item ∈ items, ∃ native, converter.nativeOf item = .ok native := by
  constructor
  · rintro ⟨natives, written⟩ item member
    obtain ⟨native, _, given⟩ := exists_of_mem (nativeOfItems_eq_ok_iff.mp written).flip member
    exact ⟨native, given⟩
  · intro each
    obtain ⟨natives, written, _⟩ := @nativeOfItems_of_each converter (fun _ _ => True) items fun item member =>
      (each item member).imp fun _ given => ⟨given, trivial⟩
    exact ⟨natives, written⟩

theorem exists_nativeOfFields_iff {fields : List Field} :
    (∃ entries, converter.nativeOfFields fields = .ok entries) ↔
      ∀ field ∈ fields, ∃ native, converter.nativeOf field.value = .ok native := by
  constructor
  · rintro ⟨entries, written⟩ field member
    obtain ⟨entry, _, _, given⟩ := exists_of_mem (nativeOfFields_eq_ok_iff.mp written).flip member
    exact ⟨entry.value, given⟩
  · intro each
    obtain ⟨entries, written, _⟩ := @nativeOfFields_of_each converter (fun _ _ => True) fields fun field member =>
      (each field member).imp fun _ given => ⟨given, trivial⟩
    exact ⟨entries, written⟩

/-- A list, a map or a document has a native form just when its parts have native forms. -/
theorem exists_nativeOf_iff_parts {value : Value} (composite : value.isLeaf = false) :
    (∃ native, converter.nativeOf value = .ok native) ↔
      ∀ part ∈ value.parts, ∃ native, converter.nativeOf part = .ok native := by
  cases value with
  | list items hint => rw [nativeOf, Except.exists_map_iff, exists_nativeOfItems_iff, Value.parts]
  | map entries => rw [nativeOf, Except.exists_map_iff, exists_nativeOfFields_iff, Value.parts, List.forall_mem_map]
  | document field =>
    rw [nativeOf, Except.exists_map_iff, nativeOfField, Except.exists_map_iff, Value.parts, List.forall_mem_singleton]
  | documents fields => rw [nativeOf, Except.exists_map_iff, exists_nativeOfFields_iff, Value.parts, List.forall_mem_map]
  | _ => cases composite

/-- A value has a native form just when all is written that it holds and that holds no values itself. -/
theorem exists_nativeOf_iff {value : Value} :
    (∃ native, converter.nativeOf value = .ok native) ↔
      ∀ leaf : Value, leaf.HeldIn value → leaf.isLeaf = true → ∃ stored, converter.writeScalar leaf = .ok stored := by
  induction value using Value.nested with
  | step value ih =>
    cases shape : value.isLeaf with
    | true =>
      rw [nativeOf_of_isLeaf shape, Except.exists_map_iff]
      exact ⟨fun written leaf held _ => held.eq_of_isLeaf shape ▸ written, fun each => each value .whole shape⟩
    | false =>
      rw [exists_nativeOf_iff_parts shape]
      constructor
      · intro each leaf held isLeaf
        cases held with
        | whole =>
          rw [shape] at isLeaf
          cases isLeaf
        | inside member within => exact (ih _ member).mp (each _ member) leaf within isLeaf
      · exact fun each part member => (ih part member).mpr fun leaf held => each leaf (.inside member held)

/-- What a document is laid out as is made of its entries alone. -/
theorem of_heldIn_layOut {entries : List (Named Native)} {stored : Value}
    (held : (Native.scalar stored).HeldIn (converter.layOut entries)) :
    ∃ entry ∈ entries, (Native.scalar stored).HeldIn entry.value := by
  unfold layOut at held
  split at held
  · cases held with
    | inside member within =>
      obtain ⟨entry, present, rfl⟩ := List.mem_map.mp member
      cases within with
      | inside member within =>
        rw [List.mem_singleton.mp member] at within
        exact ⟨entry, present, within⟩
  · cases held with
    | inside member within =>
      obtain ⟨entry, present, rfl⟩ := List.mem_map.mp member
      exact ⟨entry, Named.mem_of_mem_ofList present, within⟩

/-- The scalars in what a list, a map or a document is written as come from its parts. -/
theorem exists_part_of_heldIn {value : Value} {native : Native} {stored : Value} (composite : value.isLeaf = false)
    (written : converter.nativeOf value = .ok native) (held : (Native.scalar stored).HeldIn native) :
    ∃ part ∈ value.parts, ∃ inner, converter.nativeOf part = .ok inner ∧ (Native.scalar stored).HeldIn inner := by
  -- An entry that holds the scalar was written for a field.
  have ofEntry {fields : List Field} {entries : List (Named Native)}
      (given : converter.nativeOfFields fields = .ok entries)
      (found : ∃ entry ∈ entries, (Native.scalar stored).HeldIn entry.value) :
      ∃ part ∈ fields.map Named.value, ∃ inner, converter.nativeOf part = .ok inner ∧
        (Native.scalar stored).HeldIn inner := by
    obtain ⟨entry, present, within⟩ := found
    obtain ⟨field, member, _, shown⟩ := exists_of_mem (nativeOfFields_eq_ok_iff.mp given) present
    exact ⟨field.value, List.mem_map_of_mem member, entry.value, shown, within⟩
  cases value with
  | list items hint =>
    rw [nativeOf] at written
    obtain ⟨natives, given, rfl⟩ := Except.of_map_eq_ok written
    cases held with
    | inside member within =>
      obtain ⟨item, present, shown⟩ := exists_of_mem (nativeOfItems_eq_ok_iff.mp given) member
      exact ⟨item, present, _, shown, within⟩
  | map fields =>
    rw [nativeOf] at written
    obtain ⟨entries, given, rfl⟩ := Except.of_map_eq_ok written
    cases held with
    | inside member within =>
      obtain ⟨entry, present, rfl⟩ := List.mem_map.mp member
      exact ofEntry given ⟨entry, Named.mem_of_mem_ofList present, within⟩
  | document field =>
    rw [nativeOf] at written
    obtain ⟨entry, given, rfl⟩ := Except.of_map_eq_ok written
    obtain ⟨native, shown, rfl⟩ := of_nativeOfField_eq_ok given
    cases held with
    | inside member within =>
      rw [List.mem_singleton.mp member] at within
      exact ⟨field.value, List.mem_singleton_self _, native, shown, within⟩
  | documents fields =>
    rw [nativeOf] at written
    obtain ⟨entries, given, rfl⟩ := Except.of_map_eq_ok written
    exact ofEntry given (of_heldIn_layOut held)
  | _ => cases composite

/-- The scalars in what a value is written as are what is written for values that it holds. -/
theorem of_heldIn_nativeOf {value : Value} {native : Native} {stored : Value}
    (written : converter.nativeOf value = .ok native) (held : (Native.scalar stored).HeldIn native) :
    ∃ leaf : Value, leaf.HeldIn value ∧ leaf.isLeaf = true ∧ converter.writeScalar leaf = .ok stored := by
  induction value using Value.nested generalizing native with
  | step value ih =>
    cases shape : value.isLeaf with
    | true =>
      rw [nativeOf_of_isLeaf shape] at written
      obtain ⟨scalar, given, rfl⟩ := Except.of_map_eq_ok written
      cases held with
      | whole => exact ⟨value, .whole, shape, given⟩
      | inside member _ => cases member
    | false =>
      obtain ⟨part, member, inner, given, within⟩ := exists_part_of_heldIn shape written held
      obtain ⟨leaf, leafHeld, isLeaf, shown⟩ := ih part member given within
      exact ⟨leaf, .inside member leafHeld, isLeaf, shown⟩

theorem nativeOfItems_congr {first second : Converter} {items : List Value}
    (same : ∀ item ∈ items, first.nativeOf item = second.nativeOf item) :
    first.nativeOfItems items = second.nativeOfItems items := by
  induction items with
  | nil => rfl
  | cons item rest ih =>
    have others := ih fun other member => same other (List.mem_cons_of_mem item member)
    rw [nativeOfItems, nativeOfItems, same item (List.mem_cons_self ..), others]

theorem nativeOfFields_congr {first second : Converter} {fields : List Field}
    (same : ∀ field ∈ fields, first.nativeOf field.value = second.nativeOf field.value) :
    first.nativeOfFields fields = second.nativeOfFields fields := by
  induction fields with
  | nil => rfl
  | cons field rest ih =>
    have others := ih fun other member => same other (List.mem_cons_of_mem field member)
    rw [nativeOfFields, nativeOfFields, nativeOfField, nativeOfField, same field (List.mem_cons_self ..), others]

/-- Values are written alike where the values that they hold are, and documents are laid out in the same way. -/
theorem nativeOf_congr {first second : Converter} (layout : first.settings.layout = second.settings.layout)
    {value : Value}
    (same : ∀ leaf : Value, leaf.HeldIn value → leaf.isLeaf = true → first.writeScalar leaf = second.writeScalar leaf) :
    first.nativeOf value = second.nativeOf value := by
  induction value using Value.nested with
  | step value ih =>
    have each : ∀ part ∈ value.parts, first.nativeOf part = second.nativeOf part := fun part member =>
      ih part member fun leaf held => same leaf (.inside member held)
    cases shape : value.isLeaf with
    | true => rw [nativeOf_of_isLeaf shape, nativeOf_of_isLeaf shape, same value .whole shape]
    | false =>
      cases value with
      | list items hint =>
        have together : first.nativeOfItems items = second.nativeOfItems items := nativeOfItems_congr each
        rw [nativeOf, nativeOf, together]
      | map entries => rw [nativeOf, nativeOf, nativeOfFields_congr (List.forall_mem_map.mp each)]
      | document field =>
        rw [nativeOf, nativeOf, nativeOfField, nativeOfField, List.forall_mem_singleton.mp each]
      | documents fields =>
        have layOut : first.layOut = second.layOut := by
          funext entries
          rw [Converter.layOut, Converter.layOut, layout]
        rw [nativeOf, nativeOf, nativeOfFields_congr (List.forall_mem_map.mp each), layOut]
      | _ => cases shape

end Converter

end Polystore
