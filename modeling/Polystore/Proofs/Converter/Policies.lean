import Polystore.Proofs.Converter.Occurrences

/-!
The two policies. They differ in one thing: the application's values that no writer takes are kept by the one and refused
by the other. So the strict policy writes what the other writes, or nothing; it fails where the other does and where such
a value is held in a field that is written; and it never lets one through.
-/
namespace Polystore

open Polystore.Action

variable {σ : Type}

/-- A writer fails on something that a value holds. Only what holds no values itself is given to writers. -/
def Registry.FailsOn (registry : Registry) (value : Value) : Prop :=
  ∃ leaf : Value, leaf.HeldIn value ∧ leaf.isLeaf = true ∧ ∃ failure, registry.write? leaf = some (.error failure)

/-- A value holds an application's value of a type that has no writer. -/
def Registry.LacksWriterFor (registry : Registry) (value : Value) : Prop :=
  ∃ custom, (Value.custom custom).HeldIn value ∧ Named.has registry.byType custom.typeName = false

theorem Registry.write?_custom_eq_none_iff {registry : Registry} {custom : Custom} :
    registry.write? (.custom custom) = none ↔ Named.has registry.byType custom.typeName = false := by
  rw [write?, Option.map_eq_none_iff, ← Named.isSome_find?, Option.isSome_eq_false_iff, Option.isNone_iff_eq_none]

theorem Value.exists_custom {value : Value} (custom : value.kind = .custom) : ∃ own, value = .custom own := by
  cases value with
  | custom own => exact ⟨own, rfl⟩
  | _ => cases custom

theorem Except.exists_error_iff {ε α : Type} {result : Except ε α} :
    (∃ error, result = .error error) ↔ ¬ ∃ value, result = .ok value := by
  cases result <;> simp

namespace Converter

/-- The converter with another policy. -/
def under (converter : Converter) (policy : Policy) : Converter :=
  { converter with settings := { converter.settings with policy } }

variable {converter : Converter}

theorem writeScalar_fails_iff {leaf : Value} :
    (∃ failure, converter.writeScalar leaf = .error failure) ↔
      (∃ failure, converter.registry.write? leaf = some (.error failure)) ∨
        converter.settings.policy = .strict ∧ leaf.kind = .custom ∧ converter.registry.write? leaf = none := by
  unfold writeScalar
  cases converter.registry.write? leaf with
  | some result => cases result <;> simp [Except.mapError]
  | none => cases converter.settings.policy <;> cases leaf <;> simp [Value.kind]

/-- What the strict policy writes, the other writes too. -/
theorem writeScalar_of_strict {leaf stored : Value} (written : (converter.under .strict).writeScalar leaf = .ok stored) :
    (converter.under .passThrough).writeScalar leaf = .ok stored := by
  rcases writeScalar_eq_ok_iff.mp written with byWriter | ⟨unwritten, same, _⟩
  · exact writeScalar_eq_ok_iff.mpr (Or.inl byWriter)
  · exact writeScalar_eq_ok_iff.mpr (Or.inr ⟨unwritten, same, nofun⟩)

theorem nativeOf_of_strict {value : Value} {native : Native}
    (written : (converter.under .strict).nativeOf value = .ok native) :
    (converter.under .passThrough).nativeOf value = .ok native := by
  have alike : (converter.under .passThrough).nativeOf value = (converter.under .strict).nativeOf value := by
    have layout : (converter.under .passThrough).settings.layout = (converter.under .strict).settings.layout := rfl
    refine nativeOf_congr layout fun leaf held isLeaf => ?_
    obtain ⟨stored, given⟩ := exists_nativeOf_iff.mp ⟨native, written⟩ leaf held isLeaf
    exact (writeScalar_of_strict given).trans given.symm
  exact alike.trans written

/-- A value has no native form just when something fails to be written that it holds. -/
theorem nativeOf_fails_iff {value : Value} :
    (∃ failure, converter.nativeOf value = .error failure) ↔
      ∃ leaf : Value, leaf.HeldIn value ∧ leaf.isLeaf = true ∧
        ∃ failure, converter.writeScalar leaf = .error failure := by
  simp only [Except.exists_error_iff, exists_nativeOf_iff, not_forall, exists_prop]

theorem nativeOf_passThrough_fails_iff {value : Value} :
    (∃ failure, (converter.under .passThrough).nativeOf value = .error failure) ↔
      converter.registry.FailsOn value := by
  have scalars (leaf : Value) : (∃ failure, (converter.under .passThrough).writeScalar leaf = .error failure) ↔
      ∃ failure, converter.registry.write? leaf = some (.error failure) := by
    rw [writeScalar_fails_iff]
    exact ⟨fun either => either.resolve_right (fun strict => nomatch strict.1), Or.inl⟩
  simp only [nativeOf_fails_iff, scalars, Registry.FailsOn]

theorem nativeOf_strict_fails_iff {value : Value} :
    (∃ failure, (converter.under .strict).nativeOf value = .error failure) ↔
      converter.registry.FailsOn value ∨ converter.registry.LacksWriterFor value := by
  rw [nativeOf_fails_iff]
  constructor
  · rintro ⟨leaf, held, isLeaf, fails⟩
    rcases writeScalar_fails_iff.mp fails with byWriter | ⟨_, custom, unwritten⟩
    · exact Or.inl ⟨leaf, held, isLeaf, byWriter⟩
    · obtain ⟨value, rfl⟩ := Value.exists_custom custom
      exact Or.inr ⟨value, held, Registry.write?_custom_eq_none_iff.mp unwritten⟩
  · rintro (⟨leaf, held, isLeaf, byWriter⟩ | ⟨custom, held, lacking⟩)
    · exact ⟨leaf, held, isLeaf, writeScalar_fails_iff.mpr (Or.inl byWriter)⟩
    · have unwritten := Registry.write?_custom_eq_none_iff.mpr lacking
      exact ⟨.custom custom, held, rfl, writeScalar_fails_iff.mpr (Or.inr ⟨rfl, rfl, unwritten⟩)⟩

theorem written_fails_iff {entity : Entity} {reserved : List String} :
    (∃ failure, converter.written entity reserved = .error failure) ↔
      ∃ field ∈ entity.unreserved reserved, ∃ failure, converter.nativeOf field.value = .error failure := by
  simp only [Except.exists_error_iff, exists_written_iff, not_forall, exists_prop]

theorem addFields_congr {first second : Converter} {entity : Entity} {fields : List Field}
    (same : ∀ field ∈ fields, first.nativeOf field.value = second.nativeOf field.value) (row : Row) :
    (first.addFields entity [] row fields : Action Failure σ Row) = second.addFields entity [] row fields := by
  induction fields generalizing row with
  | nil => rfl
  | cons field rest ih =>
    have others := ih fun other member => same other (List.mem_cons_of_mem field member)
    rw [addFields, addFields, same field (List.mem_cons_self ..)]
    simp only [others]

/-- The scalars in a row are what is written for values that its fields hold. -/
theorem of_heldIn_row {entity : Entity} {reserved : List String} {row : Row} {stored : Value}
    (written : converter.written entity reserved = .ok row) (held : (Native.scalar stored).HeldIn (.map row)) :
    ∃ field ∈ entity.unreserved reserved, ∃ leaf : Value, leaf.HeldIn field.value ∧ leaf.isLeaf = true ∧
      converter.writeScalar leaf = .ok stored := by
  obtain ⟨entries, given, rfl⟩ := written_eq_ok_iff.mp written
  cases held with
  | inside member within =>
    obtain ⟨entry, present, rfl⟩ := List.mem_map.mp member
    obtain ⟨field, shown, _, native⟩ :=
      exists_of_mem (nativeOfFields_eq_ok_iff.mp given) (Named.mem_of_mem_ofList present)
    exact ⟨field, shown, of_heldIn_nativeOf native within⟩

/-- The strict policy gives the row that the other one gives or none, and no application's value but what a writer
made. -/
theorem strict_refines_pass_through (converter : Converter) (entity : Entity) (reserved : List String) (state : σ) :
    let fields := entity.unreserved reserved
    let strict := ((converter.under .strict).rowExcluding entity reserved : Action Failure σ Row) state
    let passing := ((converter.under .passThrough).rowExcluding entity reserved : Action Failure σ Row) state
    (∀ row, strict.result = .ok row → passing = strict) ∧
      ((∃ failure, passing.result = .error failure) ↔ ∃ field ∈ fields, converter.registry.FailsOn field.value) ∧
      ((∃ failure, strict.result = .error failure) ↔
        (∃ failure, passing.result = .error failure) ∨
          ∃ field ∈ fields, converter.registry.LacksWriterFor field.value) ∧
      ∀ row, strict.result = .ok row → ∀ stored custom, (Native.scalar stored).HeldIn (.map row) →
        (Value.custom custom).HeldIn stored →
        ∃ field ∈ fields, ∃ leaf : Value, leaf.HeldIn field.value ∧
          converter.registry.write? leaf = some (.ok stored) := by
  intro fields strict passing
  have strictResult : strict.result = (converter.under .strict).written entity reserved :=
    congrArg Prod.fst ((converter.under .strict).effect_rowExcluding entity reserved state)
  have passingResult : passing.result = (converter.under .passThrough).written entity reserved :=
    congrArg Prod.fst ((converter.under .passThrough).effect_rowExcluding entity reserved state)
  have passingFails : (∃ failure, passing.result = .error failure) ↔
      ∃ field ∈ fields, converter.registry.FailsOn field.value := by
    simp only [passingResult, written_fails_iff, nativeOf_passThrough_fails_iff, fields]
  rw [strictResult]
  refine ⟨fun row written => ?_, passingFails, ?_, fun row written stored custom held inside => ?_⟩
  · -- The warnings are to be the same as well, so the actions are compared and not only the rows.
    have alike : ∀ field ∈ fields,
        (converter.under .passThrough).nativeOf field.value = (converter.under .strict).nativeOf field.value := by
      intro field member
      obtain ⟨native, given⟩ := exists_written_iff.mp ⟨row, written⟩ field member
      exact (nativeOf_of_strict given).trans given.symm
    have actions : ((converter.under .passThrough).rowExcluding entity reserved : Action Failure σ Row) =
        (converter.under .strict).rowExcluding entity reserved := by
      unfold rowExcluding
      rw [addFields_eq_filter (converter.under .passThrough), addFields_eq_filter (converter.under .strict)]
      exact addFields_congr alike []
    exact congrFun actions state
  · rw [passingFails]
    simp only [written_fails_iff, nativeOf_strict_fails_iff, and_or_left, exists_or, fields]
  · obtain ⟨field, member, leaf, leafHeld, isLeaf, given⟩ := of_heldIn_row written held
    rcases writeScalar_eq_ok_iff.mp given with byWriter | ⟨_, rfl, ordinary⟩
    · exact ⟨field, member, leaf, leafHeld, byWriter⟩
    · have same := inside.eq_of_isLeaf isLeaf
      exact absurd (same ▸ rfl) (ordinary rfl)

/-- A value without a writer is refused in a list under a name that is overwritten, and not under a reserved one. -/
theorem strict_refuses_overwritten_field :
    let converter : Converter := { registry := Registry.empty.addCustom "Label" writePayload }
    let secret : Value := .custom ⟨"Secret", .hidden, 0⟩
    let fields : List Field := [⟨"a", .list [secret] .null⟩, ⟨"a", .custom ⟨"Label", .text "x", 1⟩⟩]
    let outcome (policy : Policy) (fields : List Field) :=
      ((converter.under policy).rowExcluding ⟨"c", ⟨"_id", secret⟩ :: fields⟩ ["_id"] : Action Failure Unit Row) ()
    (outcome .passThrough fields).result = .ok [⟨"a", .scalar (.text "x")⟩] ∧
      (∃ failure, (outcome .strict fields).result = .error failure) ∧
      outcome .passThrough fields.tail = outcome .strict fields.tail := by
  intro converter secret fields outcome
  have refines := fun fields => strict_refines_pass_through converter ⟨"c", ⟨"_id", secret⟩ :: fields⟩ ["_id"] ()
  have lacking : converter.registry.LacksWriterFor (.list [secret] .null) :=
    ⟨_, .inside (List.mem_singleton_self secret) .whole, rfl⟩
  have strictFails := (refines fields).2.2.1.mpr (Or.inr ⟨⟨"a", .list [secret] .null⟩, List.mem_cons_self .., lacking⟩)
  exact ⟨rfl, strictFails, (refines fields.tail).1 [⟨"a", .scalar (.text "x")⟩] rfl⟩

end Converter

end Polystore
