import Polystore.Proofs.Calendar.Texts
import Polystore.Proofs.Converter.Policies
import Polystore.Proofs.Registrations

/-!
The built-in writers. Each makes a text of whatever it takes, but for timestamps that the internet profile has no text
for. So with the registries that are made of them a row fails to be written only where a field holds such a timestamp, or
an application's value whose own writer fails.
-/
namespace Polystore

open Polystore.Action

variable {σ : Type}

namespace Value

/-- A timestamp with an offset that the internet profile has no text for: in a year before the year zero, or with an
offset that has seconds or makes a day. -/
inductive Unprofiled : Value → Prop where
  | offset {timestamp : OffsetTimestamp} (unwritable : ¬ timestamp.IsWritable) :
    Unprofiled (.scalar .offsetTimestamp (some timestamp))

/-- What has no text: also a timestamp without an offset, if it is in a year before the year zero. -/
inductive Textless : Value → Prop where
  | offset {value : Value} (unprofiled : value.Unprofiled) : Textless value
  | early {timestamp : Timestamp} (early : timestamp.date.year < 0) : Textless (.scalar .timestamp (some timestamp))

theorem exists_scalar_of_kind {type : ScalarType} {value : Value}
    (present : (value.kind = .scalar type && !value.isNull) = true) :
    ∃ x : type.Carrier, value = .scalar type (some x) := by
  cases value with
  | scalar other x =>
    cases x with
    | none => simp [isNull] at present
    | some x =>
      simp only [kind, isNull, Bool.not_false, Bool.and_true, decide_eq_true_eq, Kind.scalar.injEq] at present
      subst present
      exact ⟨x, rfl⟩
  | _ => simp [kind] at present

end Value

namespace Rfc3339

theorem write?_eq_none_iff {timestamp : OffsetTimestamp} : write? timestamp = none ↔ ¬ timestamp.IsWritable := by
  rw [← timestamp.isWritable_iff, write?]
  split <;> simp_all

end Rfc3339

theorem Timestamp.isWritable_universal_iff {timestamp : Timestamp} :
    timestamp.universal.IsWritable ↔ 0 ≤ timestamp.date.year :=
  ⟨fun writable => writable.year, fun year => ⟨year, rfl, Nat.zero_lt_succ _⟩⟩

theorem ScalarType.textOf_eq_none_iff {type : ScalarType} {x : type.Carrier} :
    type.textOf x = none ↔ (Value.scalar type (some x)).Textless := by
  cases type with
  | offsetTimestamp =>
    refine Rfc3339.write?_eq_none_iff.trans ⟨fun unwritable => .offset (.offset unwritable), fun textless => ?_⟩
    cases textless with
    | offset unprofiled =>
      cases unprofiled
      assumption
  | timestamp =>
    rw [textOf, Rfc3339.write?_eq_none_iff, Timestamp.isWritable_universal_iff, Int.not_le]
    refine ⟨.early, fun textless => ?_⟩
    cases textless with
    | offset unprofiled => cases unprofiled
    | early early => exact early
  | _ =>
    refine ⟨nofun, fun textless => ?_⟩
    cases textless with
    | offset unprofiled => cases unprofiled

namespace Writer

/-- A writer makes a text of all that it takes, but for what is missed, on which it fails. -/
def WritesAllBut (writer : Writer) (missed : Value → Prop) : Prop :=
  ∀ value, writer.accepts value = true →
    (¬ missed value → ∃ text, writer.write value = .ok (.text text)) ∧
      (missed value → ∃ failure, writer.write value = .error failure)

/-- A value that is neither a list nor a map nor a document, nor null, nor the application's, is a scalar. -/
theorem exists_scalar_of_accepts_text {value : Value} (accepted : text.accepts value = true) :
    ∃ type, ∃ x : ScalarType.Carrier type, value = .scalar type (some x) := by
  cases value with
  | scalar type x =>
    cases x with
    | none => cases accepted
    | some x => exact ⟨type, x, rfl⟩
  | _ => cases accepted

theorem text_writesAllBut : text.WritesAllBut Value.Textless := by
  intro value accepted
  obtain ⟨type, x, rfl⟩ := exists_scalar_of_accepts_text accepted
  rw [← ScalarType.textOf_eq_none_iff]
  have shown : (Value.scalar type (some x)).toText? = type.textOf x := rfl
  simp only [text, shown]
  cases type.textOf x with
  | none => exact ⟨fun named => absurd rfl named, fun _ => ⟨_, rfl⟩⟩
  | some text => exact ⟨fun _ => ⟨text, rfl⟩, nofun⟩

theorem temporal_writesAllBut : temporal.WritesAllBut Value.Unprofiled := by
  intro value accepted
  cases value with
  | scalar type x =>
    cases x with
    | none => cases type <;> cases accepted
    | some x =>
      cases type with
      | date | time | timestamp => exact ⟨fun _ => ⟨_, rfl⟩, nofun⟩
      | offsetTimestamp =>
        have written : temporal.write (.scalar .offsetTimestamp (some x)) = textOr .time (Rfc3339.write? x) := rfl
        rw [written]
        cases shown : Rfc3339.write? x with
        | none => exact ⟨fun profiled => absurd (.offset (Rfc3339.write?_eq_none_iff.mp shown)) profiled, fun _ => ⟨_, rfl⟩⟩
        | some text =>
          refine ⟨fun _ => ⟨text, rfl⟩, fun unprofiled => ?_⟩
          cases unprofiled with
          | offset unwritable => cases shown.symm.trans (Rfc3339.write?_eq_none_iff.mpr unwritable)
      | _ => cases accepted
  | _ => cases accepted

theorem uuid_writesAllBut : uuid.WritesAllBut fun _ => False := by
  intro value accepted
  obtain ⟨x, rfl⟩ := Value.exists_scalar_of_kind accepted
  exact ⟨fun _ => ⟨x.text, rfl⟩, False.elim⟩

theorem decimal_writesAllBut : decimal.WritesAllBut fun _ => False := by
  intro value accepted
  obtain ⟨x, rfl⟩ := Value.exists_scalar_of_kind accepted
  exact ⟨fun _ => ⟨x.text, rfl⟩, False.elim⟩

end Writer

namespace Registry

/-- What a registry makes of a value that is no application's is what a writer of its kind makes of it that takes it. -/
theorem exists_writer_of_write? {registry : Registry} {value : Value} {result : Except Failure Value}
    (ordinary : value.kind ≠ .custom) (given : registry.write? value = some result) :
    ∃ writer, (value.kind, writer) ∈ registry.byKind ∧ writer.accepts value = true ∧ writer.write value = result := by
  rw [write?_of_ordinary ordinary] at given
  obtain ⟨writer, first, writes⟩ := Option.map_eq_some_iff.mp given
  obtain ⟨entry, member, rfl⟩ := List.mem_map.mp (List.mem_of_find?_eq_some first)
  obtain ⟨present, same⟩ := List.mem_filter.mp member
  have kind : entry.1 = value.kind := of_decide_eq_true same
  have accepted : entry.2.accepts value = true := by simpa using List.find?_some first
  exact ⟨entry.2, kind ▸ present, accepted, writes⟩

/-- A registry whose writers of kinds are those of the text registry, or those of the standard one. -/
def WritesAsText (registry : Registry) : Prop :=
  registry.byKind = Registry.text.byKind ∨ registry.byKind = Registry.standard.byKind

/-- A timestamp with an offset goes to the writer of dates and times. -/
theorem WritesAsText.write?_offset {registry : Registry} (asText : registry.WritesAsText)
    (timestamp : OffsetTimestamp) :
    registry.write? (.scalar .offsetTimestamp (some timestamp)) =
      some (Writer.temporal.write (.scalar .offsetTimestamp (some timestamp))) := by
  rcases asText with same | same
  · simp only [write?, writersOf, same]
    rfl
  · simp only [write?, writersOf, same]
    rfl

/-- The writers of such a registry miss at most timestamps with an offset. -/
theorem WritesAsText.fails {registry : Registry} (asText : registry.WritesAsText) {kind : Kind} {writer : Writer}
    (member : (kind, writer) ∈ registry.byKind) {value : Value} (accepted : writer.accepts value = true)
    {failure : Failure} (failed : writer.write value = .error failure) : value.Unprofiled := by
  have amongText : (kind, writer) ∈ Registry.text.byKind := by
    rcases asText with same | same
    · exact same ▸ member
    · exact List.mem_append_left _ (same ▸ member)
  have known : writer = .temporal ∨ writer = .uuid ∨ writer = .decimal := by
    have listed : Registry.text.byKind = [(.scalar .date, .temporal), (.scalar .time, .temporal),
        (.scalar .timestamp, .temporal), (.scalar .offsetTimestamp, .temporal), (.scalar .uuid, .uuid),
        (.scalar .decimal, .decimal)] := rfl
    simp only [listed, List.mem_cons, Prod.mk.injEq, List.not_mem_nil, or_false] at amongText
    tauto
  by_contra profiled
  have written : ∃ text, writer.write value = .ok (.text text) := by
    rcases known with rfl | rfl | rfl
    · exact (Writer.temporal_writesAllBut value accepted).1 profiled
    · exact (Writer.uuid_writesAllBut value accepted).1 not_false
    · exact (Writer.decimal_writesAllBut value accepted).1 not_false
  obtain ⟨text, given⟩ := written
  cases given.symm.trans failed

/-- Such a registry fails on no value but those timestamps, and on those that the application's writers fail on. -/
theorem WritesAsText.write?_fails_iff {registry : Registry} (asText : registry.WritesAsText) {value : Value}
    (ordinary : value.kind ≠ .custom) :
    (∃ failure, registry.write? value = some (.error failure)) ↔ value.Unprofiled := by
  constructor
  · rintro ⟨failure, given⟩
    obtain ⟨writer, member, accepted, failed⟩ := exists_writer_of_write? ordinary given
    exact asText.fails member accepted failed
  · rintro ⟨unwritable⟩
    obtain ⟨failure, failed⟩ := (Writer.temporal_writesAllBut _ rfl).2 (.offset unwritable)
    exact ⟨failure, by rw [asText.write?_offset, failed]⟩

end Registry

namespace Converter

/-- What fails to be written of a value, where its application's values are written, are the timestamps that it holds and
that the internet profile has no text for. -/
theorem failsOn_iff {registry : Registry} (asText : registry.WritesAsText) {value : Value}
    (customs : ∀ own, (Value.custom own).HeldIn value → ∀ failure, registry.write? (.custom own) ≠ some (.error failure)) :
    registry.FailsOn value ↔ ∃ timestamp : Value, timestamp.HeldIn value ∧ timestamp.Unprofiled := by
  constructor
  · rintro ⟨leaf, held, _, failure, failed⟩
    by_cases custom : leaf.kind = .custom
    · obtain ⟨own, rfl⟩ := Value.exists_custom custom
      exact absurd failed (customs own held failure)
    · exact ⟨leaf, held, (asText.write?_fails_iff custom).mp ⟨failure, failed⟩⟩
  · rintro ⟨_, held, ⟨unwritable⟩⟩
    exact ⟨_, held, rfl, (asText.write?_fails_iff (by simp [Value.kind])).mpr (.offset unwritable)⟩

/-- The built-in writers make texts of all that they take, but for timestamps that their formats cannot write. So only
such a timestamp keeps an entity from being written. -/
theorem built_in_writers_make_texts (state : σ) (converter : Converter) (entity : Entity) (reserved : List String) :
    Writer.text.WritesAllBut Value.Textless ∧ Writer.temporal.WritesAllBut Value.Unprofiled ∧
      (Writer.uuid.WritesAllBut fun _ => False) ∧ (Writer.decimal.WritesAllBut fun _ => False) ∧
      (converter.settings.policy = .passThrough → converter.registry.WritesAsText →
        (∀ field ∈ entity.unreserved reserved, ∀ own, (Value.custom own).HeldIn field.value →
          ∀ failure, converter.registry.write? (.custom own) ≠ some (.error failure)) →
        ((∃ failure, ((converter.rowExcluding entity reserved : Action Failure σ Row) state).result = .error failure) ↔
          ∃ field ∈ entity.unreserved reserved, ∃ timestamp : Value,
            timestamp.HeldIn field.value ∧ timestamp.Unprofiled)) := by
  refine ⟨Writer.text_writesAllBut, Writer.temporal_writesAllBut, Writer.uuid_writesAllBut,
    Writer.decimal_writesAllBut, fun passThrough asText customs => ?_⟩
  have passing : converter.under .passThrough = converter := by rw [← passThrough]; rfl
  have result : ((converter.rowExcluding entity reserved : Action Failure σ Row) state).result =
      converter.written entity reserved := congrArg Prod.fst (converter.effect_rowExcluding entity reserved state)
  have fails (value : Value) : (∃ failure, converter.nativeOf value = .error failure) ↔
      converter.registry.FailsOn value := by
    have passed : (∃ failure, (converter.under .passThrough).nativeOf value = .error failure) ↔
        converter.registry.FailsOn value := nativeOf_passThrough_fails_iff
    rwa [passing] at passed
  simp only [result, written_fails_iff, fails]
  exact exists_congr fun field => and_congr_right fun member => failsOn_iff asText (customs field member)

/-- A list with a timestamp a second off a full minute is refused, beside a value of an application type that has a
writer. -/
theorem nested_timestamp_is_refused :
    let converter : Converter := { registry := Registry.standard.addCustom "Label" writePayload }
    let noon : Timestamp := ⟨⟨2024, 1, 1, by decide⟩, ⟨12, 0, 0, 0, by decide⟩⟩
    let skewed : Value := .scalar .offsetTimestamp (some ⟨noon, 3601, by decide⟩)
    let entity : Entity := ⟨"c", [⟨"label", .custom ⟨"Label", .text "l", 0⟩⟩, ⟨"times", .list [.null, skewed] .null⟩]⟩
    (∃ failure, ((converter.rowOf entity : Action Failure Unit Row) ()).result = .error failure) ∧
      (∃ failure, Writer.temporal.write skewed = .error failure) ∧
      ∃ text, Writer.text.write (.scalar .timestamp (some noon)) = .ok (.text text) := by
  intro converter noon skewed entity
  obtain ⟨ofText, ofTemporal, _, _, rows⟩ := built_in_writers_make_texts () converter entity []
  have unprofiled : skewed.Unprofiled := .offset fun writable => absurd writable.minutes (by decide)
  have named : ¬ (Value.scalar .timestamp (some noon)).Textless := by
    rintro (⟨⟨⟩⟩ | early)
    exact absurd early (by decide)
  have labelled (own : Custom) (failure : Failure) :
      converter.registry.write? (.custom own) ≠ some (.error failure) := by
    intro given
    obtain ⟨write, found, failed⟩ := Option.map_eq_some_iff.mp given
    obtain ⟨same, rfl⟩ := Named.mk.inj (List.mem_singleton.mp (Named.mem_of_find? found))
    rw [CustomWriter.ofType, if_pos same] at failed
    cases shown : own.payload <;> simp [writePayload, shown] at failed
  refine ⟨?_, (ofTemporal skewed rfl).2 unprofiled, (ofText _ rfl).1 named⟩
  exact (rows rfl (.inr rfl) fun _ _ own _ => labelled own).mpr
    ⟨⟨"times", .list [.null, skewed] .null⟩, .tail _ (.head _), skewed, .inside (.tail _ (.head _)) .whole, unprofiled⟩

/-- A timestamp with an offset in the year before the year zero: the writer of dates and times takes it and fails,
although it writes the same timestamp without the offset. -/
theorem timestamp_before_year_zero_is_refused :
    let early : OffsetTimestamp := ⟨⟨⟨-1, 1, 1, by decide⟩, ⟨0, 0, 0, 0, by decide⟩⟩, 0, by decide⟩
    let value : Value := .scalar .offsetTimestamp (some early)
    Writer.temporal.accepts value = true ∧ (∀ text, Writer.temporal.write value ≠ .ok (.text text)) ∧
      Writer.text.accepts value = true ∧ (∀ text, Writer.text.write value ≠ .ok (.text text)) ∧
      Writer.temporal.write (.scalar .timestamp (some early.localTime)) = .ok (.text "-0001-01-01T00:00:00.0") ∧
      ∀ registry ∈ [Registry.text, Registry.standard], ∃ failure,
        ((({ registry } : Converter).rowOf ⟨"c", [⟨"f", value⟩]⟩ : Action Failure Unit Row) ()).result = .error failure := by
  intro early value
  have shown : early.localTime.storedText = "-0001-01-01T00:00:00.0" := by decide +kernel
  refine ⟨rfl, nofun, rfl, nofun, congrArg (fun text => Except.ok (Value.text text)) shown, fun registry listed => ?_⟩
  simp only [List.mem_cons, List.not_mem_nil, or_false] at listed
  rcases listed with rfl | rfl
  · exact ⟨_, rfl⟩
  · exact ⟨_, rfl⟩

end Converter

end Polystore
