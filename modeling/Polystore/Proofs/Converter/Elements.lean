import Polystore.DataType
import Polystore.Proofs.Calendar.Texts
import Polystore.Proofs.Converter.RoundTrip
import Polystore.Proofs.Uuid

/-!
Elements of types come back from the native values that they are written as. Scalars that have a writer become texts,
which the type parses; the others stay values; lists become native lists without maps, which are read item by item. An
option comes back if its content is never written as a null.
-/
namespace Polystore

/-- A text without blanks is parsed as it is. -/
theorem Reading.parse_of_visible {type : ScalarType} (notText : type ≠ .text) {text : String}
    (visible : ∀ c ∈ text.toList, Text.isBlank c = false) {value : type.Carrier}
    (reads : trimmedScalar type text = .ok value) : (DataType.scalar type).parse text = .ok value := by
  have trimmed := Text.trimmed_of_visible visible
  unfold DataType.parse scalar
  cases type with
  | text => exact absurd rfl notText
  | decimal =>
    simp only [trimmed, reads]
    rfl
  | _ => simp only [trimmed, reads]

namespace Writer

/-- What the writer of dates and times makes of a value is a text that the type of the value parses. -/
theorem parse_of_temporal {type : ScalarType} {value : type.Carrier} {written : Value}
    (writes : temporal.write (.scalar type (some value)) = .ok written) :
    ∃ text, written = .text text ∧ (DataType.scalar type).parse text = .ok value := by
  cases type with
  | date =>
    cases writes
    refine ⟨value.text, rfl, Reading.parse_of_visible (by decide) (fun _ => value.isBlank_of_mem_text) ?_⟩
    unfold Reading.trimmedScalar
    simp only [value.read_text]
  | time =>
    cases writes
    refine ⟨value.storedText, rfl, Reading.parse_of_visible (by decide) (fun _ => value.isBlank_of_mem_storedText) ?_⟩
    unfold Reading.trimmedScalar
    simp only [value.read_storedText]
  | timestamp =>
    cases writes
    refine ⟨value.storedText, rfl, Reading.parse_of_visible (by decide) (fun _ => value.isBlank_of_mem_storedText) ?_⟩
    unfold Reading.trimmedScalar
    simp only [value.read_storedText]
  | offsetTimestamp =>
    have profile : textOr .time (Rfc3339.write? value) = .ok written := writes
    cases shown : Rfc3339.write? value with
    | none =>
      rw [shown] at profile
      cases profile
    | some text =>
      rw [shown] at profile
      cases profile
      have visible (c : Char) (member : c ∈ text.toList) := OffsetTimestamp.isBlank_of_mem_written shown member
      refine ⟨text, rfl, Reading.parse_of_visible (by decide) visible ?_⟩
      unfold Reading.trimmedScalar
      simp only [OffsetTimestamp.read_write? shown]
  | _ => cases writes

/-- What the writer of identifiers makes of one is a text that is parsed as the identifier. -/
theorem parse_of_uuid {type : ScalarType} {value : type.Carrier} {written : Value}
    (writes : uuid.write (.scalar type (some value)) = .ok written) :
    ∃ text, written = .text text ∧ (DataType.scalar type).parse text = .ok value := by
  cases type with
  | uuid =>
    cases writes
    refine ⟨value.text, rfl, Reading.parse_of_visible (by decide) (fun _ => value.isBlank_of_mem_text) ?_⟩
    unfold Reading.trimmedScalar
    simp only [value.read_text]
  | _ => cases writes

end Writer

namespace ScalarType

/-- A scalar is decoded as itself. -/
theorem decode_scalar (type : ScalarType) (value : type.Carrier) :
    type.decode (.scalar type (some value)) = .ok value := by
  cases type with
  | integer kind =>
    have narrowed : Reading.narrow kind value.val = .ok value := by rw [Reading.narrow, Word.ofInt?_val]
    exact narrowed
  | float width =>
    have same : Reading.floatOfFloat width value = value := dif_pos rfl
    exact congrArg Except.ok same
  | _ => rfl

/-- Texts are decoded as they are parsed. -/
theorem decode_text (type : ScalarType) (text : String) :
    type.decode (.text text) = (DataType.scalar type).parse text := by
  cases type <;> rfl

end ScalarType

/-- Types whose elements their encodings tell apart: there are options only of what is never encoded as a null. -/
def DataType.IsFaithful : DataType → Prop
  | .scalar _ | .sharedText => True
  | .vector element | .deque element | .boxed element => element.IsFaithful
  | .optional content => content.IsFaithful ∧ ∀ element, (content.encode element).isNull = false

theorem DataType.isNull_emptyValue (type : DataType) : type.emptyValue.isNull = true := by
  induction type with
  | boxed content ih => exact ih
  | optional content ih => exact ih
  | _ => rfl

theorem Value.isLeaf_of_isNull {value : Value} (null : value.isNull = true) : value.isLeaf = true := by
  cases value with
  | list items hint => cases null
  | map entries => cases null
  | document field => cases null
  | documents fields => cases null
  | _ => rfl

namespace Registry

/-- What the standard registry makes of a scalar: dates, times and identifiers have a writer. -/
theorem standard_write? (type : ScalarType) (value : type.Carrier) :
    standard.write? (.scalar type (some value)) =
      if type.isTemporal then some (Writer.temporal.write (.scalar type (some value)))
      else if type = .uuid then some (Writer.uuid.write (.scalar type (some value)))
      else none := by
  cases type <;> rfl

/-- Nulls have no writer in the standard registry. -/
theorem standard_write?_of_isNull {value : Value} (null : value.isNull = true) : standard.write? value = none := by
  cases value with
  | scalar type value =>
    cases value with
    | none => cases type <;> rfl
    | some value => cases null
  | null | nullList | nullMap => rfl
  | _ => cases null

end Registry

namespace Converter

variable {converter : Converter}

theorem writeScalar_of_written {value : Value} {result : Except Failure Value} {stored : Value}
    (written : converter.registry.write? value = some result) (gives : converter.writeScalar value = .ok stored) :
    result = .ok stored := by
  rcases writeScalar_eq_ok_iff.mp gives with byWriter | ⟨unwritten, _⟩
  · exact Option.some.inj (written.symm.trans byWriter)
  · cases written.symm.trans unwritten

theorem writeScalar_of_unwritten {value : Value} (unwritten : converter.registry.write? value = none)
    (ordinary : value.kind ≠ .custom) : converter.writeScalar value = .ok value :=
  writeScalar_eq_ok_iff.mpr (Or.inr ⟨unwritten, rfl, fun _ => ordinary⟩)

/-- A native value that an element of a type is read from. -/
structure GivesBack (layout : Layout) (type : DataType) (element : type.Element) (native : Native) : Prop where
  decoded : type.decode (valueOf layout native) = .ok element
  isNull : (valueOf layout native).isNull = (type.encode element).isNull
  mapless : native.isMap = false

/-- What is written for a scalar gives it back, be it a text or the scalar itself. -/
theorem givesBack_scalar (standard : converter.registry = .standard) {type : ScalarType} {value : type.Carrier}
    {native : Native} (written : converter.nativeOf (.scalar type (some value)) = .ok native) :
    GivesBack converter.settings.layout (.scalar type) value native := by
  have decodes {stored : Value}
      (parsed : ∃ text, stored = .text text ∧ (DataType.scalar type).parse text = .ok value) :
      GivesBack converter.settings.layout (.scalar type) value (.scalar stored) := by
    obtain ⟨text, rfl, parses⟩ := parsed
    exact ⟨(type.decode_text text).trans parses, rfl, rfl⟩
  rw [nativeOf_of_isLeaf rfl] at written
  obtain ⟨stored, gives, rfl⟩ := Except.of_map_eq_ok written
  have writer := Registry.standard_write? type value
  rw [← standard] at writer
  split at writer
  · exact decodes (Writer.parse_of_temporal (writeScalar_of_written writer gives))
  · split at writer
    · exact decodes (Writer.parse_of_uuid (writeScalar_of_written writer gives))
    · rw [writeScalar_of_unwritten writer (by simp [Value.kind])] at gives
      cases gives
      exact ⟨type.decode_scalar value, rfl, rfl⟩

theorem nativeOf_emptyValue (standard : converter.registry = .standard) (type : DataType) :
    converter.nativeOf type.emptyValue = .ok (.scalar type.emptyValue) := by
  have null := type.isNull_emptyValue
  have unwritten := Registry.standard_write?_of_isNull null
  rw [← standard] at unwritten
  have ordinary : type.emptyValue.kind ≠ .custom := by
    intro custom
    cases value : type.emptyValue <;> simp [value, Value.kind, Value.isNull] at custom null
  rw [nativeOf_of_isLeaf (Value.isLeaf_of_isNull null), writeScalar_of_unwritten unwritten ordinary]
  rfl

/-- Items that are given back one by one are given back together. -/
theorem givesBack_items {layout : Layout} {type : DataType} {elements : List type.Element} {natives : List Native}
    (written : converter.nativeOfItems (elements.map type.encode) = .ok natives)
    (each : ∀ element native, converter.nativeOf (type.encode element) = .ok native →
      GivesBack layout type element native) :
    decodeAll type.decode (valuesOf layout natives) = .ok elements ∧ ∀ native ∈ natives, native.isMap = false := by
  induction elements generalizing natives with
  | nil =>
    cases written
    exact ⟨rfl, fun _ member => nomatch member⟩
  | cons element rest ih =>
    obtain ⟨first, firstWritten, others⟩ := Except.of_bind_eq_ok written
    obtain ⟨later, laterWritten, whole⟩ := Except.of_bind_eq_ok others
    cases whole
    have back := each element first firstWritten
    obtain ⟨decoded, mapless⟩ := ih laterWritten
    refine ⟨?_, fun native member => ?_⟩
    · rw [valuesOf, decodeAll, back.decoded, Except.ok_bind, decoded]
      rfl
    · rcases List.mem_cons.mp member with rfl | present
      · exact back.mapless
      · exact mapless native present

/-- What is written for a list gives back what a list is decoded as, if its items give back theirs. -/
theorem valueOf_of_list {layout : Layout} {type : DataType} {elements : List type.Element} {hint : Value}
    {native : Native} (written : converter.nativeOf (.list (elements.map type.encode) hint) = .ok native)
    (each : ∀ element native, converter.nativeOf (type.encode element) = .ok native →
      GivesBack layout type element native) :
    ∃ items, valueOf layout native = .list items .null ∧ decodeAll type.decode items = .ok elements ∧
      native.isMap = false := by
  rw [nativeOf] at written
  obtain ⟨natives, items, rfl⟩ := Except.of_map_eq_ok written
  obtain ⟨decoded, mapless⟩ := givesBack_items items each
  exact ⟨valuesOf layout natives, valueOf_list_of_mapless mapless, decoded, rfl⟩

/-- What is written for an element of a faithful type gives the element back. -/
theorem givesBack_of_written (standard : converter.registry = .standard) {type : DataType}
    (faithful : type.IsFaithful) {element : type.Element} {native : Native}
    (written : converter.nativeOf (type.encode element) = .ok native) :
    GivesBack converter.settings.layout type element native := by
  induction type generalizing native with
  | scalar type => exact givesBack_scalar standard written
  | sharedText =>
    have text := givesBack_scalar standard written
    exact ⟨text.decoded, text.isNull, text.mapless⟩
  | vector type ih =>
    obtain ⟨items, value, decoded, mapless⟩ := valueOf_of_list written fun _ _ item => ih faithful item
    exact ⟨by rw [value]; exact decoded, by rw [value]; rfl, mapless⟩
  | deque type ih =>
    obtain ⟨items, value, decoded, mapless⟩ := valueOf_of_list written fun _ _ item => ih faithful item
    exact ⟨by rw [value]; exact decoded, by rw [value]; rfl, mapless⟩
  | boxed content ih =>
    have back := ih faithful written
    exact ⟨back.decoded, back.isNull, back.mapless⟩
  | optional content ih =>
    cases element with
    | none =>
      have null : converter.nativeOf content.emptyValue = .ok native := written
      rw [nativeOf_emptyValue standard] at null
      cases null
      refine ⟨?_, rfl, rfl⟩
      have isNull := content.isNull_emptyValue
      simp [DataType.decode, valueOf, isNull]
    | some element =>
      have back := ih faithful.1 written
      have filled : (valueOf converter.settings.layout native).isNull = false := back.isNull.trans (faithful.2 element)
      refine ⟨?_, back.isNull, back.mapless⟩
      rw [DataType.decode, if_neg (by simp [filled]), back.decoded]
      rfl

end Converter

end Polystore
