import Polystore.Proofs.Calendar.Displayed
import Polystore.Proofs.Converter.Elements
import Polystore.Proofs.Number.DecimalText
import Polystore.Proofs.Number.FloatText
import Polystore.Proofs.Number.IntegerText
import Polystore.Proofs.Text.Hex
import Polystore.Proofs.Value.Equality

/-!
Scalars come back from their texts. What a store keeps that knows only texts is read as a value of the type again, and
equals the value that was shown; only times before ten o'clock are shown in a form that is not read.
-/
namespace Polystore

namespace Reading

/-- Digits that are written are read without a mark in front. -/
theorem blobDigits_encode (bytes : List UInt8) : blobDigits (Text.Hex.encode bytes) = Text.Hex.encode bytes := by
  unfold blobDigits
  split
  · rename_i digits marked
    have unmarked : ∀ n < 16, '\\' ≠ Nat.digitChar n := by decide
    obtain ⟨n, small, mark⟩ := Text.Hex.mem_encode (marked ▸ List.mem_cons_self)
    exact absurd mark (unmarked n small)
  · rfl

end Reading

namespace ScalarType

/-- A scalar as it is read from its text: a decimal zero has lost its sign. -/
def afterText : (type : ScalarType) → type.Carrier → type.Carrier
  | .decimal, x => x.signlessZero
  | _, x => x

/-- What is shown in a form that is not read: a time whose hour has one digit. -/
def IsShownShort : (type : ScalarType) → type.Carrier → Prop
  | .time, x => x.hour < 10
  | _, _ => False

/-- Read from its text, a scalar is the same. -/
theorem same_afterText (type : ScalarType) {x : type.Carrier} (number : type.isNaN x = false) :
    type.same (type.afterText x) x = true := by
  cases type with
  | decimal => exact x.same_signlessZero
  | _ => exact (ScalarType.same_self _ x).trans (by rw [number]; rfl)

/-- No text of a scalar has blanks, unless the scalar is a text. -/
theorem isBlank_of_mem_textOf {type : ScalarType} (notText : type ≠ .text) {x : type.Carrier} {text : String}
    (shown : type.textOf x = some text) {c : Char} (member : c ∈ text.toList) : Text.isBlank c = false := by
  cases type with
  | text => exact absurd rfl notText
  | boolean =>
    have visible : (if x then "true" else "false").toList.all (fun c => !Text.isBlank c) = true := by cases x <;> decide
    cases shown
    simpa using List.all_eq_true.mp visible c member
  | integer kind => cases shown; exact Word.isBlank_of_mem_text member
  | float width => cases shown; exact FloatLayout.isBlank_of_mem_text member
  | decimal => cases shown; exact Decimal.isBlank_of_mem_text member
  | blob => cases shown; exact Text.Hex.isBlank_of_mem_encode member
  | date => cases shown; exact Date.isBlank_of_mem_text member
  | time => cases shown; exact Time.isBlank_of_mem_text member
  | timestamp => exact OffsetTimestamp.isBlank_of_mem_written shown member
  | offsetTimestamp => exact OffsetTimestamp.isBlank_of_mem_written shown member
  | uuid => cases shown; exact Uuid.isBlank_of_mem_text member

/-- The text of a scalar is read as the scalar, if it is not a time shown short. -/
theorem trimmedScalar_textOf {type : ScalarType} {x : type.Carrier} {text : String} (shown : type.textOf x = some text)
    (number : type.isNaN x = false) (full : ¬ type.IsShownShort x) :
    Reading.trimmedScalar type text = .ok (type.afterText x) := by
  unfold Reading.trimmedScalar
  cases type with
  | boolean =>
    cases shown
    cases x <;> rfl
  | text =>
    cases shown
    rfl
  | integer kind =>
    cases shown
    simp only [Word.read_text]
    rfl
  | float width =>
    cases shown
    simp only [FloatLayout.read_text _ number]
    rfl
  | decimal =>
    cases shown
    simp only [Decimal.parse_text]
    rfl
  | blob =>
    cases shown
    simp only [Reading.blobDigits_encode, Text.Hex.decode_encode]
    rfl
  | date =>
    cases shown
    simp only [Date.read_text]
    rfl
  | time =>
    cases shown
    simp only [Time.read_text_of_late (Nat.le_of_not_lt full)]
    rfl
  | timestamp =>
    simp only [x.read_universal shown]
    rfl
  | offsetTimestamp =>
    simp only [OffsetTimestamp.read_write? shown]
    rfl
  | uuid =>
    cases shown
    simp only [Uuid.read_text]
    rfl

theorem parse_textOf {type : ScalarType} {x : type.Carrier} {text : String} (shown : type.textOf x = some text)
    (number : type.isNaN x = false) (full : ¬ type.IsShownShort x) :
    (DataType.scalar type).parse text = .ok (type.afterText x) := by
  by_cases isText : type = .text
  · subst isText
    cases shown
    rfl
  · exact Reading.parse_of_visible isText (fun _ => isBlank_of_mem_textOf isText shown)
      (trimmedScalar_textOf shown number full)

theorem parse_textOf_short {type : ScalarType} {x : type.Carrier} {text : String} (shown : type.textOf x = some text)
    (short : type.IsShownShort x) :
    (DataType.scalar type).parse text = .error (Reading.unparsable text type.typeName) := by
  cases type with
  | time =>
    have trimmed := Text.trimmed_of_visible fun _ => isBlank_of_mem_textOf (by decide) shown
    cases shown
    unfold DataType.parse Reading.scalar Reading.trimmedScalar
    simp only [trimmed, Time.read_text_of_early short]
  | _ => cases short

/-- A scalar that is no not-a-number comes back from its text, unless it is a time before ten o'clock: such a text is
refused. -/
theorem scalars_read_from_texts (type : ScalarType) (x : type.Carrier) (number : type.isNaN x = false) (text : String)
    (shown : ((DataType.scalar type).encode x).toText? = some text) :
    (¬ type.IsShownShort x → (DataType.scalar type).decode (.text text) = .ok (type.afterText x) ∧
      type.same (type.afterText x) x = true) ∧
    (type.IsShownShort x → (DataType.scalar type).decode (.text text) =
      .error (Reading.unparsable text type.typeName)) := by
  have decoded : (DataType.scalar type).decode (.text text) = (DataType.scalar type).parse text := type.decode_text text
  rw [decoded]
  exact ⟨fun full => ⟨parse_textOf shown number full, type.same_afterText number⟩, parse_textOf_short shown⟩

/-- A time at ten o'clock comes back. -/
theorem ten_oclock_is_read :
    ((DataType.scalar .time).encode (⟨10, 2, 3, 0, by decide⟩ : Time)).toText? = some "10:02:03.0" ∧
      (DataType.scalar .time).decode (.text "10:02:03.0") = .ok (⟨10, 2, 3, 0, by decide⟩ : Time) := by
  have shown : ((DataType.scalar .time).encode (⟨10, 2, 3, 0, by decide⟩ : Time)).toText? = some "10:02:03.0" := by
    decide +kernel
  exact ⟨shown, ((scalars_read_from_texts .time _ rfl _ shown).1 (show ¬ 10 < 10 by decide)).1⟩

/-- A time at one o'clock does not. -/
theorem one_oclock_is_refused :
    ((DataType.scalar .time).encode (⟨1, 2, 3, 0, by decide⟩ : Time)).toText? = some "1:02:03.0" ∧
      ∀ time : Time, (DataType.scalar .time).decode (.text "1:02:03.0") ≠ .ok time := by
  have shown : ScalarType.time.textOf (⟨1, 2, 3, 0, by decide⟩ : Time) = some "1:02:03.0" := by decide +kernel
  have short : ScalarType.time.IsShownShort (⟨1, 2, 3, 0, by decide⟩ : Time) := show 1 < 10 by decide
  refine ⟨shown, fun time read => ?_⟩
  have refused := parse_textOf_short shown short
  rw [← decode_text] at refused
  cases refused.symm.trans read

end ScalarType

end Polystore
