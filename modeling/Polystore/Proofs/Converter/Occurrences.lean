import Polystore.Proofs.Converter.Parts

/-!
Names that occur more than once. A row has the names of the fields of an entity in the order of their first occurrences,
and under each name what the last field of the name is written as. Every field is converted, be it overwritten later or
not, so the first that has no native form fails them all; and each field behind the first of its name leaves a warning.
-/
namespace Polystore

open Polystore.Action

variable {σ : Type}

/-- The things of a list that have an earlier one of their name in it. -/
def Named.repeats {α : Type} (items : List (Named α)) : List (Named α) :=
  (items.zipIdx.filter fun entry => entry.1.name ∈ names (items.take entry.2)).map Prod.fst

/-- The fields of an entity that have no reserved name. -/
def Entity.unreserved (entity : Entity) (reserved : List String) : List Field :=
  entity.fields.filter fun field => !reserved.contains field.name

namespace Converter

/-- A row has each name of some fields once, in the order of their first occurrences, and under it what the last field of
the name is written as. -/
structure Records (converter : Converter) (fields : List Field) (row : Row) : Prop where
  names : Named.names row = (Named.names fields).eraseDups
  last : ∀ name field, (fields.filter fun field => field.name = name).getLast? = some field →
    ∃ native, converter.nativeOf field.value = .ok native ∧ Named.find? row name = some native

/-- The failure of the first of some fields that has no native form. -/
def FirstFailure (converter : Converter) (entity : Entity) (fields : List Field) (failure : Failure) : Prop :=
  ∃ before field behind cause, fields = before ++ field :: behind ∧
    (∀ other ∈ before, ∃ native, converter.nativeOf other.value = .ok native) ∧
    converter.nativeOf field.value = .error cause ∧
    failure = cause.during ("While converting the field " ++ fieldReference entity field.name)

/-- The warning that a field of a name is written in the place of an earlier one. -/
def overwriting (entity : Entity) (name : String) : LogRecord :=
  ⟨.warn, .conversion,
    "The field " ++ fieldReference entity name ++ " appears more than once, the last value is written"⟩

variable {converter : Converter}

/-- The last of the fields of a name goes with the last of the entries of the name. -/
theorem last_of_forall₂ {good : Field → Named Native → Prop} {fields : List Field} {entries : List (Named Native)}
    (each : List.Forall₂ (fun field entry => entry.name = field.name ∧ good field entry) fields entries)
    {name : String} {field : Field} (last : (fields.filter fun field => field.name = name).getLast? = some field) :
    ∃ entry, (entries.filter fun entry => entry.name = name).getLast? = some entry ∧ good field entry := by
  have ofName := List.rel_filter (p := fun field : Field => decide (field.name = name))
    (q := fun entry : Named Native => decide (entry.name = name)) (by
      rintro field entry ⟨same, _⟩
      simp [same]) each
  -- From behind, the last of each list is its first, and both go together.
  have behindFirst := List.forall₂_reverse_iff.mpr ofName
  rw [← List.head?_reverse] at last ⊢
  generalize (fields.filter fun field => field.name = name).reverse = backwards at last behindFirst
  generalize (entries.filter fun entry => entry.name = name).reverse = natives at behindFirst ⊢
  cases behindFirst with
  | nil => cases last
  | @cons _ entry _ _ first _ =>
    cases last
    exact ⟨entry, rfl, first.2⟩

/-- A map that is filled with what fields are written as records the fields. -/
theorem records_ofList {fields : List Field} {entries : List (Named Native)}
    (written : converter.nativeOfFields fields = .ok entries) : converter.Records fields (Named.ofList entries) where
  names := by
    have each := nativeOfFields_eq_ok_iff.mp written
    rw [Named.names_ofList, names_of_forall₂ each]
  last := by
    intro name field last
    obtain ⟨entry, found, given⟩ := last_of_forall₂ (nativeOfFields_eq_ok_iff.mp written) last
    exact ⟨entry.value, given, by rw [Named.find?_ofList, found]; rfl⟩

/-- Fields are written together up to the first that has no native form. -/
theorem written_or_failed (converter : Converter) (fields : List Field) :
    (∃ entries, converter.nativeOfFields fields = .ok entries) ∨
      ∃ before entries field behind cause, fields = before ++ field :: behind ∧
        converter.nativeOfFields before = .ok entries ∧ converter.nativeOf field.value = .error cause := by
  induction fields with
  | nil => exact Or.inl ⟨[], rfl⟩
  | cons field rest ih =>
    cases given : converter.nativeOf field.value with
    | error cause => exact Or.inr ⟨[], [], field, rest, cause, rfl, rfl, given⟩
    | ok native =>
      have first := nativeOfField_of_value given
      rcases ih with ⟨entries, others⟩ | ⟨before, entries, failing, behind, cause, rfl, others, failed⟩
      · exact Or.inl ⟨⟨field.name, native⟩ :: entries, by rw [nativeOfFields, first, others]; rfl⟩
      · exact Or.inr ⟨field :: before, ⟨field.name, native⟩ :: entries, failing, behind, cause, rfl,
          by rw [nativeOfFields, first, others]; rfl, failed⟩

theorem fieldsOnto_of_failed {entity : Entity} {before : List Field} {entries : List (Named Native)} {field : Field}
    {cause : Failure} (written : converter.nativeOfFields before = .ok entries)
    (failed : converter.nativeOf field.value = .error cause) (behind : List Field) (row : Row) :
    converter.fieldsOnto entity [] row (before ++ field :: behind) =
      .error (cause.during ("While converting the field " ++ fieldReference entity field.name)) := by
  induction before generalizing row entries with
  | nil => simp [fieldsOnto, failed]
  | cons first rest ih =>
    obtain ⟨entry, given, others⟩ := Except.of_bind_eq_ok written
    obtain ⟨natives, later, _⟩ := Except.of_bind_eq_ok others
    obtain ⟨native, shown, rfl⟩ := of_nativeOfField_eq_ok given
    simp only [List.cons_append, fieldsOnto, shown, List.contains_nil, Bool.false_eq_true, if_false,
      Except.mapError_ok, Except.ok_bind]
    exact ih later _

theorem written_eq (converter : Converter) (entity : Entity) (reserved : List String) :
    converter.written entity reserved = converter.fieldsOnto entity [] [] (entity.unreserved reserved) :=
  converter.fieldsOnto_eq_filter entity reserved [] entity.fields

/-- A row is filled with what the fields of other than reserved names are written as. -/
theorem written_eq_ok_iff {entity : Entity} {reserved : List String} {row : Row} :
    converter.written entity reserved = .ok row ↔
      ∃ entries, converter.nativeOfFields (entity.unreserved reserved) = .ok entries ∧ row = Named.ofList entries := by
  rw [written_eq]
  constructor
  · intro written
    rcases converter.written_or_failed (entity.unreserved reserved) with
      ⟨entries, given⟩ | ⟨before, entries, field, behind, cause, split, given, failed⟩
    · rw [fieldsOnto_of_written given] at written
      exact ⟨entries, given, (Except.ok.inj written).symm⟩
    · rw [split, fieldsOnto_of_failed given failed] at written
      cases written
  · rintro ⟨entries, given, rfl⟩
    exact fieldsOnto_of_written given []

theorem exists_written_iff {entity : Entity} {reserved : List String} :
    (∃ row, converter.written entity reserved = .ok row) ↔
      ∀ field ∈ entity.unreserved reserved, ∃ native, converter.nativeOf field.value = .ok native := by
  rw [← exists_nativeOfFields_iff]
  constructor
  · rintro ⟨row, written⟩
    obtain ⟨entries, given, _⟩ := written_eq_ok_iff.mp written
    exact ⟨entries, given⟩
  · rintro ⟨entries, given⟩
    exact ⟨Named.ofList entries, written_eq_ok_iff.mpr ⟨entries, given, rfl⟩⟩

theorem written_eq_error_iff {entity : Entity} {reserved : List String} {failure : Failure} :
    converter.written entity reserved = .error failure ↔
      converter.FirstFailure entity (entity.unreserved reserved) failure := by
  rw [written_eq]
  constructor
  · intro fails
    rcases converter.written_or_failed (entity.unreserved reserved) with
      ⟨entries, given⟩ | ⟨before, entries, field, behind, cause, split, given, failed⟩
    · rw [fieldsOnto_of_written given] at fails
      cases fails
    · rw [split, fieldsOnto_of_failed given failed] at fails
      exact ⟨before, field, behind, cause, split, exists_nativeOfFields_iff.mp ⟨entries, given⟩, failed,
        (Except.error.inj fails).symm⟩
  · rintro ⟨before, field, behind, cause, split, each, failed, rfl⟩
    obtain ⟨entries, given⟩ := exists_nativeOfFields_iff.mpr each
    rw [split, fieldsOnto_of_failed given failed]

theorem addFields_eq_filter (converter : Converter) (entity : Entity) (reserved : List String) (row : Row)
    (fields : List Field) :
    (converter.addFields entity reserved row fields : Action Failure σ Row) =
      converter.addFields entity [] row (fields.filter fun field => !reserved.contains field.name) := by
  induction fields generalizing row with
  | nil => rfl
  | cons field rest ih =>
    by_cases member : field.name ∈ reserved
    · rw [addFields, if_pos (by simpa using member), ih, List.filter_cons_of_neg (by simpa using member)]
    · rw [addFields, if_neg (by simpa using member), List.filter_cons_of_pos (by simpa using member), addFields,
        if_neg (by simp)]
      simp only [ih]

/-- A field that is written leaves a warning if its name is there, and the others go on behind it. -/
theorem log_addFields_cons {entity : Entity} {field : Field} {native : Native}
    (given : converter.nativeOf field.value = .ok native) (row : Row) (rest : List Field) (state : σ) :
    (converter.addFields entity [] row (field :: rest) state).log =
      (if field.name ∈ Named.names row then [overwriting entity field.name] else []) ++
        (converter.addFields entity [] (Named.insert row field.name native) rest state).log := by
  have written : (ofResult ((converter.nativeOf field.value).mapError
      (Failure.during · ("While converting the field " ++ fieldReference entity field.name))) :
        Action Failure σ Native) state = ⟨.ok native, state, []⟩ := by
    rw [given]
    rfl
  rw [addFields, if_neg (by simp), bind_of_ok (congrArg Outcome.result written)]
  by_cases again : Named.has row field.name = true
  · simp [again, Named.has_eq_true_iff.mp again, bind_apply, overwriting]
  · have new := mt Named.has_eq_true_iff.mpr again
    simp [again, new]

/-- Fields that are written behind others warn of each name that they repeat. -/
theorem log_addFields {entity : Entity} {before fields : List Field} {row result : Row}
    (onto : converter.fieldsOnto entity [] row fields = .ok result)
    (seen : ∀ name, name ∈ Named.names row ↔ name ∈ Named.names before) (state : σ) :
    (converter.addFields entity [] row fields state).log =
      ((fields.zipIdx before.length).filter fun entry =>
        entry.1.name ∈ Named.names ((before ++ fields).take entry.2)).map fun entry =>
          overwriting entity entry.1.name := by
  -- What is written already goes from the fields over to those before them, and the row has the names of these.
  induction fields generalizing before row with
  | nil => rfl
  | cons field rest ih =>
    rw [fieldsOnto, if_neg (by simp)] at onto
    obtain ⟨native, given, onward⟩ := Except.of_bind_eq_ok onto
    have seenNow : ∀ name, name ∈ Named.names (Named.insert row field.name native) ↔
        name ∈ Named.names (before ++ [field]) := by
      intro name
      rw [Named.mem_names_insert, seen]
      simp [Named.names]
    have later := ih onward seenNow
    have place : (before ++ field :: rest).take before.length = before := List.take_left
    rw [log_addFields_cons (Except.of_mapError_eq_ok given), later, List.zipIdx_cons, List.filter_cons]
    simp only [place, ← seen, List.append_assoc, List.singleton_append, List.length_append, List.length_singleton]
    split <;> rename_i h <;> simp [h]

/-- A row has the names of its fields in the order of their first occurrences, and under each name what the last of
its fields is written as. -/
theorem rows_keep_first_places_and_last_values (converter : Converter) (entity : Entity) (reserved : List String)
    (state : σ) :
    let fields := entity.unreserved reserved
    let outcome := (converter.rowExcluding entity reserved : Action Failure σ Row) state
    ((∃ row, outcome.result = .ok row) ↔ ∀ field ∈ fields, ∃ native, converter.nativeOf field.value = .ok native) ∧
      (∀ failure, outcome.result = .error failure ↔ converter.FirstFailure entity fields failure) ∧
      ∀ row, outcome.result = .ok row → converter.Records fields row ∧
        outcome.log = (Named.repeats fields).map fun field => overwriting entity field.name := by
  intro fields outcome
  have result : outcome.result = converter.written entity reserved :=
    congrArg Prod.fst (converter.effect_rowExcluding entity reserved state)
  rw [result]
  refine ⟨exists_written_iff, fun failure => written_eq_error_iff, fun row written => ⟨?_, ?_⟩⟩
  · obtain ⟨entries, given, rfl⟩ := written_eq_ok_iff.mp written
    exact records_ofList given
  · rw [written_eq] at written
    have log := @log_addFields σ converter entity [] fields [] row written (fun _ => Iff.rfl) state
    have filtered : outcome = converter.addFields entity [] [] fields state :=
      congrFun (converter.addFields_eq_filter entity reserved [] entity.fields) state
    rw [filtered, log, Named.repeats, List.map_map]
    rfl

/-- A name that occurs three times is written once, in its first place, and warned of twice. -/
theorem repeated_name_is_written_once :
    let converter : Converter := { settings := ⟨.strict, .singleton⟩ }
    let fields : List Field := [⟨"a", .text "x"⟩, ⟨"b", .null⟩, ⟨"a", .nullMap⟩, ⟨"a", .boolean true⟩]
    let entity : Entity := ⟨"c", ⟨"_id", .custom ⟨"Label", .text "k", 0⟩⟩ :: fields⟩
    let row : Row := [⟨"a", .scalar (.boolean true)⟩, ⟨"b", .scalar .null⟩]
    let outcome := (converter.rowExcluding entity ["_id"] : Action Failure Unit Row) ()
    outcome.result = .ok row ∧ converter.Records fields row ∧
      outcome.log = [overwriting entity "a", overwriting entity "a"] := by
  intro converter fields entity row outcome
  have result : outcome.result = .ok row := rfl
  have unreserved : entity.unreserved ["_id"] = fields := rfl
  obtain ⟨_, _, onSuccess⟩ := rows_keep_first_places_and_last_values converter entity ["_id"] ()
  obtain ⟨records, log⟩ := onSuccess row result
  rw [unreserved] at records log
  exact ⟨result, records, log⟩

end Converter

end Polystore
