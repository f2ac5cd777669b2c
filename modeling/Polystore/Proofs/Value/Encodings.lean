import Polystore.Proofs.Converter.Elements

/-!
Encodings are decoded. A value that an element of a type is encoded as gives the element back, if the options of the type
are options of what is never encoded as a null; an option of anything else takes some of its elements for the absent one.
-/
namespace Polystore

/-- Elements that are given back one by one are given back together. -/
theorem decodeAll_map {α : Type} {encode : α → Value} {decode : Value → Except Failure α}
    (undoes : ∀ element, decode (encode element) = .ok element) (elements : List α) :
    decodeAll decode (elements.map encode) = .ok elements := by
  induction elements with
  | nil => rfl
  | cons element rest ih =>
    rw [List.map_cons, decodeAll, undoes, Except.ok_bind, ih]
    rfl

theorem of_decodeAll_singleton {α : Type} {decode : Value → Except Failure α} {value : Value} {element : α}
    (decoded : decodeAll decode [value] = .ok [element]) : decode value = .ok element := by
  obtain ⟨first, given, rest⟩ := Except.of_bind_eq_ok decoded
  cases rest
  exact given

namespace DataType

/-- The absent element of an option, perhaps inside boxes. -/
def IsAbsent : (type : DataType) → type.Element → Prop
  | .boxed content, element => content.IsAbsent element
  | .optional _, element => element = none
  | .scalar _, _ | .sharedText, _ | .vector _, _ | .deque _, _ => False

/-- Only the absent elements of a faithful type are encoded as nulls. -/
theorem isNull_encode_iff {type : DataType} (faithful : type.IsFaithful) (element : type.Element) :
    (type.encode element).isNull = true ↔ type.IsAbsent element := by
  induction type with
  | boxed content ih => exact ih faithful element
  | optional content _ =>
    cases element with
    | none => exact ⟨fun _ => rfl, fun _ => content.isNull_emptyValue⟩
    | some element =>
      have filled : (content.encode element).isNull = false := faithful.2 element
      exact ⟨fun null => (nomatch filled.symm.trans null), nofun⟩
  | _ => exact ⟨nofun, False.elim⟩

/-- An option gives back what it has if that is not encoded as a null, and if it is given back itself. -/
theorem decode_some_iff {content : DataType} {element : content.Element} :
    (DataType.optional content).decode ((DataType.optional content).encode (some element)) = .ok (some element) ↔
      (content.encode element).isNull = false ∧ content.decode (content.encode element) = .ok element := by
  have encoded : (DataType.optional content).encode (some element) = content.encode element := rfl
  rw [encoded, decode]
  cases content.encode element |>.isNull with
  | true => simp
  | false =>
    rw [if_neg Bool.false_ne_true]
    constructor
    · intro decoded
      obtain ⟨other, given, same⟩ := Except.of_map_eq_ok decoded
      exact ⟨rfl, Option.some.inj same ▸ given⟩
    · rintro ⟨_, given⟩
      rw [given]
      rfl

/-- The elements of a faithful type are given back. -/
theorem decode_encode {type : DataType} (faithful : type.IsFaithful) (element : type.Element) :
    type.decode (type.encode element) = .ok element := by
  induction type with
  | scalar type => exact type.decode_scalar element
  | sharedText => exact ScalarType.text.decode_scalar element
  | vector type ih => exact decodeAll_map (ih faithful) element
  | deque type ih => exact decodeAll_map (ih faithful) element
  | boxed content ih => exact ih faithful element
  | optional content ih =>
    cases element with
    | none => exact if_pos content.isNull_emptyValue
    | some element => exact decode_some_iff.mpr ⟨faithful.2 element, ih faithful.1 element⟩

/-- A type that gives all its elements back is faithful. -/
theorem isFaithful_of_decode_encode {type : DataType}
    (undoes : ∀ element, type.decode (type.encode element) = .ok element) : type.IsFaithful := by
  induction type with
  | scalar type => trivial
  | sharedText => trivial
  | vector type ih => exact ih fun element => of_decodeAll_singleton (undoes [element])
  | deque type ih => exact ih fun element => of_decodeAll_singleton (undoes [element])
  | boxed content ih => exact ih undoes
  | optional content ih =>
    have each (element : content.Element) := decode_some_iff.mp (undoes (some element))
    exact ⟨ih fun element => (each element).2, fun element => (each element).1⟩

/-- Elements are given back by what they are encoded as, just when every option is one of what is never encoded as a
null. -/
theorem decoding_undoes_encoding (type : DataType) :
    (type.IsFaithful ↔ ∀ element, type.decode (type.encode element) = .ok element) ∧
      (type.IsFaithful → ∀ element, (type.encode element).isNull = true ↔ type.IsAbsent element) :=
  ⟨⟨decode_encode, isFaithful_of_decode_encode⟩, isNull_encode_iff⟩

/-- A pattern that is no number comes back with its payload, out of a box in an option in a list. -/
theorem payload_is_decoded :
    let option : DataType := .optional (.boxed (.scalar (.float .single)))
    let patterns : List (Option (Binary .single)) := [none, some ⟨0x7FC00001, by decide⟩]
    (DataType.vector option).decode ((DataType.vector option).encode patterns) = .ok patterns ∧
      (option.encode none).isNull = true := by
  intro option patterns
  have faithful : option.IsFaithful := ⟨trivial, fun _ => rfl⟩
  exact ⟨(decoding_undoes_encoding (.vector option)).1.mp faithful patterns,
    ((decoding_undoes_encoding option).2 faithful none).mpr rfl⟩

end DataType

end Polystore
