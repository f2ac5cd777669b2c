import Polystore.Converter

/-!
The rows that entities are written as. A row has no field of a reserved name and no name twice, and writing
one neither reads nor changes any state.
-/
namespace Polystore.Converter

open Polystore.Action

variable {σ : Type}

/-- The row with the native forms of more fields, those of reserved names left out. -/
def fieldsOnto (converter : Converter) (entity : Entity) (reserved : List String) (row : Row) :
    List Field → Except Failure Row
  | [] => .ok row
  | field :: rest =>
    if reserved.contains field.name then fieldsOnto converter entity reserved row rest
    else do
      let native ← (converter.nativeOf field.value).mapError
        (Failure.during · ("While converting the field " ++ fieldReference entity field.name))
      fieldsOnto converter entity reserved (Named.insert row field.name native) rest

/-- The row of an entity without the fields of reserved names, its warnings left out. -/
def written (converter : Converter) (entity : Entity) (reserved : List String) : Except Failure Row :=
  converter.fieldsOnto entity reserved [] entity.fields

theorem effect_addFields (converter : Converter) (entity : Entity) (reserved : List String) (row : Row)
    (fields : List Field) (state : σ) :
    effect (converter.addFields entity reserved row fields) state =
      (converter.fieldsOnto entity reserved row fields, state) := by
  induction fields generalizing row with
  | nil => rfl
  | cons field rest ih =>
    unfold addFields fieldsOnto
    split
    · exact ih row
    · simp only [effect_bind, effect_ofResult]
      cases (converter.nativeOf field.value).mapError
        (Failure.during · ("While converting the field " ++ fieldReference entity field.name)) with
      | error failure => rfl
      | ok native =>
        -- Whether the name is there already changes the log alone.
        by_cases again : Named.has row field.name = true
        · simp only [again, if_true, effect_bind, effect_log]
          exact ih (Named.insert row field.name native)
        · simp only [again, Bool.false_eq_true, if_false]
          exact ih (Named.insert row field.name native)

@[simp] theorem effect_rowExcluding (converter : Converter) (entity : Entity) (reserved : List String)
    (state : σ) :
    effect (converter.rowExcluding entity reserved) state = (converter.written entity reserved, state) :=
  converter.effect_addFields entity reserved [] entity.fields state

private theorem fieldsOnto_keeps {converter : Converter} {entity : Entity} {reserved : List String}
    {row result : Row} {fields : List Field} (onto : converter.fieldsOnto entity reserved row fields = .ok result)
    (distinct : Named.Distinct row) (free : ∀ name ∈ reserved, name ∉ Named.names row) :
    Named.Distinct result ∧ ∀ name ∈ reserved, name ∉ Named.names result := by
  induction fields generalizing row with
  | nil =>
    cases onto
    exact ⟨distinct, free⟩
  | cons field rest ih =>
    unfold fieldsOnto at onto
    split at onto
    · exact ih onto distinct free
    · rename_i unreserved
      cases native : (converter.nativeOf field.value).mapError
          (Failure.during · ("While converting the field " ++ fieldReference entity field.name)) with
      | error failure =>
        rw [native] at onto
        cases onto
      | ok native' =>
        rw [native] at onto
        refine ih onto (Named.distinct_insert distinct field.name native') fun name member => ?_
        have other : name ≠ field.name := fun same => unreserved (by simpa [same] using member)
        rw [Named.names_insert]
        split
        · exact free name member
        · simpa [other] using free name member

private theorem find?_fieldsOnto_of_absent {converter : Converter} {entity : Entity} {reserved : List String}
    {row result : Row} {fields : List Field} (onto : converter.fieldsOnto entity reserved row fields = .ok result)
    {name : String} (absent : fields.filter (fun field => field.name = name) = []) :
    Named.find? result name = Named.find? row name := by
  induction fields generalizing row with
  | nil =>
    cases onto
    rfl
  | cons field rest ih =>
    have later : rest.filter (fun field => field.name = name) = [] :=
      List.filter_eq_nil_iff.mpr fun other member =>
        List.filter_eq_nil_iff.mp absent other (List.mem_cons_of_mem field member)
    have other : ¬field.name = name := by
      simpa using List.filter_eq_nil_iff.mp absent field (List.mem_cons_self ..)
    unfold fieldsOnto at onto
    split at onto
    · exact ih onto later
    · obtain ⟨native, _, onward⟩ := Except.of_bind_eq_ok onto
      rw [ih onward later, Named.find?_insert, if_neg other]

private theorem find?_fieldsOnto {converter : Converter} {entity : Entity} {reserved : List String}
    {row result : Row} {fields : List Field} (onto : converter.fieldsOnto entity reserved row fields = .ok result)
    {name : String} (unreserved : name ∉ reserved) {field : Field}
    (last : (fields.filter fun field => field.name = name).getLast? = some field) :
    ∃ native, converter.nativeOf field.value = .ok native ∧ Named.find? result name = some native := by
  induction fields generalizing row with
  | nil => cases last
  | cons first rest ih =>
    unfold fieldsOnto at onto
    by_cases later : rest.filter (fun field => field.name = name) = []
    · have here : first.name = name ∧ first = field := by
        by_cases same : first.name = name
        · simpa [same, later] using last
        · simp [same, later] at last
      obtain ⟨rfl, rfl⟩ := here
      rw [if_neg (by simpa using unreserved)] at onto
      obtain ⟨native, gives, onward⟩ := Except.of_bind_eq_ok onto
      refine ⟨native, Except.of_mapError_eq_ok gives, ?_⟩
      rw [find?_fieldsOnto_of_absent onward later, Named.find?_insert, if_pos rfl]
    · have behind : (rest.filter fun field => field.name = name).getLast? = some field := by
        obtain ⟨next, more, shown⟩ := List.exists_cons_of_ne_nil later
        by_cases same : first.name = name <;> simpa [same, shown, List.getLast?_cons_cons] using last
      split at onto
      · exact ih onto behind
      · obtain ⟨native, _, onward⟩ := Except.of_bind_eq_ok onto
        exact ih onward behind

/-- Of the fields of a name the last is written. -/
theorem find?_written {converter : Converter} {entity : Entity} {reserved : List String} {row : Row}
    (written : converter.written entity reserved = .ok row) {name : String} (unreserved : name ∉ reserved)
    {field : Field} (last : (entity.findAll name).getLast? = some field) :
    ∃ native, converter.nativeOf field.value = .ok native ∧ Named.find? row name = some native :=
  find?_fieldsOnto written unreserved last

/-- A name of which there is no field is not written. -/
theorem find?_written_of_absent {converter : Converter} {entity : Entity} {reserved : List String} {row : Row}
    (written : converter.written entity reserved = .ok row) {name : String} (absent : entity.findAll name = []) :
    Named.find? row name = none :=
  find?_fieldsOnto_of_absent written absent

theorem distinct_written {converter : Converter} {entity : Entity} {reserved : List String} {row : Row}
    (written : converter.written entity reserved = .ok row) : Named.Distinct row :=
  (fieldsOnto_keeps written (by simp [Named.Distinct, Named.names]) (by simp [Named.names])).1

theorem not_mem_names_written {converter : Converter} {entity : Entity} {reserved : List String} {row : Row}
    (written : converter.written entity reserved = .ok row) {name : String} (member : name ∈ reserved) :
    name ∉ Named.names row :=
  (fieldsOnto_keeps written (by simp [Named.Distinct, Named.names]) (by simp [Named.names])).2 name member

end Polystore.Converter
