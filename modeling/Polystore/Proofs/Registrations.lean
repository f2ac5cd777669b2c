import Polystore.Proofs.Named
import Polystore.Writer

/-!
Registries and the order of registration. Writers of kinds are collected and tried one after another, and of the writers
of an application type only the first is kept; either way a value goes to the first registration that would take it if
it were alone.
-/
namespace Polystore

/-- One step in the making of a registry. -/
inductive Registration where
  | kind (kind : Kind) (writer : Writer)
  /-- A writer of an application type. -/
  | custom (typeName : String) (write : CustomWriter)

namespace Registration

/-- Whether a registration is for values like this one: for its kind, or for its type if it is an application's. -/
def concerns : Registration → Value → Bool
  | .kind registered _, value => registered = value.kind && value.kind ≠ .custom
  | .custom typeName _, .custom own => typeName = own.typeName
  | .custom _ _, _ => false

/-- What a registration alone makes of a value, none if it does not take it. -/
def answer? : Registration → Value → Option (Except Failure Value)
  | .kind registered writer, value =>
    if concerns (.kind registered writer) value && writer.accepts value then some (writer.write value) else none
  | .custom typeName write, .custom own => if typeName = own.typeName then some (write own) else none
  | .custom _ _, _ => none

theorem answer?_of_unconcerned {registration : Registration} {value : Value}
    (other : ¬ registration.concerns value = true) : registration.answer? value = none := by
  cases registration with
  | kind registered writer => rw [answer?, if_neg fun taken => other (Bool.and_eq_true_iff.mp taken).1]
  | custom typeName write =>
    cases value with
    | custom own => rw [answer?, if_neg fun same => other (decide_eq_true same)]
    | _ => rfl

theorem answer?_eq_some_iff {registration : Registration} {value : Value} (ordinary : value.kind ≠ .custom)
    {result : Except Failure Value} : registration.answer? value = some result ↔
      ∃ writer, registration = .kind value.kind writer ∧ writer.accepts value = true ∧ writer.write value = result := by
  cases registration with
  | kind registered writer =>
    simp only [answer?, concerns, Option.ite_none_right_eq_some, Bool.and_eq_true, decide_eq_true_eq, kind.injEq]
    constructor
    · rintro ⟨⟨⟨same, _⟩, accepted⟩, written⟩
      exact ⟨writer, ⟨same, rfl⟩, accepted, Option.some.inj written⟩
    · rintro ⟨_, ⟨same, rfl⟩, accepted, written⟩
      exact ⟨⟨⟨same, ordinary⟩, accepted⟩, congrArg some written⟩
  | custom typeName write =>
    cases value with
    | custom own => exact absurd rfl ordinary
    | _ => simp [answer?]

theorem answer?_eq_none_iff {registration : Registration} {value : Value} (ordinary : value.kind ≠ .custom) :
    registration.answer? value = none ↔
      ∀ writer, registration = .kind value.kind writer → writer.accepts value = false := by
  simp only [Option.eq_none_iff_forall_ne_some, ne_eq, answer?_eq_some_iff ordinary]
  constructor
  · intro refused writer same
    exact Bool.eq_false_iff.mpr fun accepted => refused _ ⟨writer, same, accepted, rfl⟩
  · rintro refused _ ⟨writer, same, accepted, _⟩
    cases accepted.symm.trans (refused writer same)

theorem answer?_custom_eq_some_iff {registration : Registration} {own : Custom} {result : Except Failure Value} :
    registration.answer? (.custom own) = some result ↔
      ∃ write, registration = .custom own.typeName write ∧ write own = result := by
  cases registration with
  | kind registered writer => simp [answer?, concerns, Value.kind]
  | custom typeName write =>
    rw [answer?, Option.ite_none_right_eq_some]
    constructor
    · rintro ⟨rfl, written⟩
      exact ⟨write, rfl, Option.some.inj written⟩
    · rintro ⟨_, same, written⟩
      cases same
      exact ⟨rfl, congrArg some written⟩

theorem answer?_custom_eq_none_iff {registration : Registration} {own : Custom} :
    registration.answer? (.custom own) = none ↔ ∀ write, registration ≠ .custom own.typeName write := by
  simp only [Option.eq_none_iff_forall_ne_some, ne_eq, answer?_custom_eq_some_iff]
  exact ⟨fun refused write same => refused _ ⟨write, same, rfl⟩, fun other _ ⟨write, same, _⟩ => other write same⟩

end Registration

namespace Registry

def add (registry : Registry) : Registration → Registry
  | .kind kind writer => registry.addKind kind writer
  | .custom typeName write => registry.addCustom typeName write

/-- The registry that registrations make, one after another. -/
def ofRegistrations (registrations : List Registration) : Registry := registrations.foldl add empty

theorem writersOf_addKind (registry : Registry) (kind other : Kind) (writer : Writer) :
    (registry.addKind kind writer).writersOf other =
      registry.writersOf other ++ if kind = other then [writer] else [] := by
  by_cases same : kind = other <;> simp [addKind, writersOf, same]

theorem find?_addCustom (registry : Registry) (typeName other : String) (write : CustomWriter) :
    Named.find? (registry.addCustom typeName write).byType other =
      (Named.find? registry.byType other).or
        (if typeName = other then some (CustomWriter.ofType typeName write) else none) := by
  rw [addCustom]
  split
  · -- The type has a writer already, which is the one found if the type is asked for.
    rename_i present
    by_cases same : typeName = other
    · obtain ⟨known, found⟩ := Option.isSome_iff_exists.mp ((Named.isSome_find? _ _).trans present)
      rw [← same, found, Option.some_or]
    · rw [if_neg same, Option.or_none]
  · exact Named.find?_append_singleton _ _ other

theorem writersOf_addCustom (registry : Registry) (typeName : String) (write : CustomWriter) (kind : Kind) :
    (registry.addCustom typeName write).writersOf kind = registry.writersOf kind := by
  rw [addCustom]
  split <;> rfl

theorem write?_of_ordinary {value : Value} (ordinary : value.kind ≠ .custom) (registry : Registry) :
    registry.write? value =
      ((registry.writersOf value.kind).find? fun writer => writer.accepts value).map fun writer => writer.write value := by
  cases value with
  | custom own => exact absurd rfl ordinary
  | _ => rfl

theorem write?_add_of_custom (registry : Registry) (registration : Registration) (own : Custom) :
    (registry.add registration).write? (.custom own) =
      (registry.write? (.custom own)).or (registration.answer? (.custom own)) := by
  cases registration with
  | kind kind writer =>
    rw [Registration.answer?_of_unconcerned (by simp [Registration.concerns, Value.kind]), Option.or_none]
    rfl
  | custom typeName write =>
    rw [add, write?, write?, find?_addCustom, Option.map_or, Registration.answer?]
    by_cases same : typeName = own.typeName
    · rw [if_pos same, if_pos same, Option.map_some, CustomWriter.ofType, if_pos same.symm]
    · rw [if_neg same, if_neg same, Option.map_none]

theorem write?_add_of_ordinary {value : Value} (ordinary : value.kind ≠ .custom) (registry : Registry)
    (registration : Registration) :
    (registry.add registration).write? value = (registry.write? value).or (registration.answer? value) := by
  rw [write?_of_ordinary ordinary, write?_of_ordinary ordinary]
  cases registration with
  | kind kind writer =>
    rw [add, writersOf_addKind, List.find?_append, Option.map_or, Registration.answer?, Registration.concerns]
    by_cases same : kind = value.kind
    · by_cases taken : writer.accepts value = true <;> simp [same, ordinary, taken]
    · simp [same]
  | custom typeName write =>
    rw [add, writersOf_addCustom, Registration.answer?_of_unconcerned, Option.or_none]
    cases value with
    | custom own => exact absurd rfl ordinary
    | _ => nofun

/-- A registration takes what those before it do not take. -/
theorem write?_add (registry : Registry) (registration : Registration) (value : Value) :
    (registry.add registration).write? value = (registry.write? value).or (registration.answer? value) := by
  cases value with
  | custom own => exact write?_add_of_custom registry registration own
  | _ => exact write?_add_of_ordinary (by simp [Value.kind]) registry registration

/-- A value goes to the first registration that takes it. -/
theorem write?_ofRegistrations (registrations : List Registration) (value : Value) :
    (ofRegistrations registrations).write? value = registrations.findSome? fun registration => registration.answer? value := by
  have further (registry : Registry) : (registrations.foldl add registry).write? value =
      (registry.write? value).or (registrations.findSome? fun registration => registration.answer? value) := by
    induction registrations generalizing registry with
    | nil => simp
    | cons registration rest ih =>
      rw [List.foldl_cons, ih, write?_add, Option.or_assoc, List.findSome?_cons]
      cases registration.answer? value <;> simp
  have none : empty.write? value = none := by cases value <;> rfl
  rw [ofRegistrations, further, none, Option.none_or]

/-- What is no application's value is written by the first writer for its kind that takes it. -/
theorem write?_eq_some_iff (registrations : List Registration) {value : Value} (ordinary : value.kind ≠ .custom)
    (result : Except Failure Value) : (ofRegistrations registrations).write? value = some result ↔
      ∃ before writer behind, registrations = before ++ .kind value.kind writer :: behind ∧
        writer.accepts value = true ∧ writer.write value = result ∧
        ∀ earlier, .kind value.kind earlier ∈ before → earlier.accepts value = false := by
  simp only [write?_ofRegistrations, List.findSome?_eq_some_iff, Registration.answer?_eq_some_iff ordinary,
    Registration.answer?_eq_none_iff ordinary]
  constructor
  · rintro ⟨before, _, behind, split, ⟨writer, rfl, accepted, written⟩, refused⟩
    exact ⟨before, writer, behind, split, accepted, written, fun earlier member => refused _ member earlier rfl⟩
  · rintro ⟨before, writer, behind, split, accepted, written, refused⟩
    exact ⟨before, _, behind, split, ⟨writer, rfl, accepted, written⟩,
      fun registration member earlier same => refused earlier (same ▸ member)⟩

/-- An application's value is written by the first writer for its type. -/
theorem write?_custom_eq_some_iff (registrations : List Registration) (own : Custom) (result : Except Failure Value) :
    (ofRegistrations registrations).write? (.custom own) = some result ↔
      ∃ before write behind, registrations = before ++ .custom own.typeName write :: behind ∧
        write own = result ∧ ∀ earlier, .custom own.typeName earlier ∉ before := by
  simp only [write?_ofRegistrations, List.findSome?_eq_some_iff, Registration.answer?_custom_eq_some_iff,
    Registration.answer?_custom_eq_none_iff]
  constructor
  · rintro ⟨before, _, behind, split, ⟨write, rfl, written⟩, other⟩
    exact ⟨before, write, behind, split, written, fun earlier member => other _ member earlier rfl⟩
  · rintro ⟨before, write, behind, split, written, other⟩
    exact ⟨before, _, behind, split, ⟨write, rfl, written⟩,
      fun registration member earlier same => other earlier (same ▸ member)⟩

theorem accepts_iff_written (registry : Registry) (value : Value) :
    registry.accepts value = true ↔ ∃ result, registry.write? value = some result := by
  rw [← isSome_write?, Option.isSome_iff_exists]

theorem accepts_congr {first second : Registry} {value : Value} (alike : first.write? value = second.write? value) :
    first.accepts value = second.accepts value := by
  rw [← isSome_write?, ← isSome_write?, alike]

/-- Registrations that concern other values change nothing. -/
theorem findSome?_concerning (registrations : List Registration) (value : Value) :
    (registrations.filter fun registration => registration.concerns value).findSome?
        (fun registration => registration.answer? value) =
      registrations.findSome? fun registration => registration.answer? value := by
  induction registrations with
  | nil => rfl
  | cons registration rest ih =>
    rw [List.filter_cons, List.findSome?_cons]
    by_cases concerned : registration.concerns value = true
    · rw [if_pos concerned, List.findSome?_cons, ih]
    · rw [if_neg concerned, Registration.answer?_of_unconcerned concerned, ih]

/-- A value is written by the first writer registered for its kind or its type that takes it; no other registration
matters. -/
theorem first_registration_writes (registrations : List Registration) (value : Value) :
    ((ofRegistrations registrations).accepts value = true ↔
      ∃ result, (ofRegistrations registrations).write? value = some result) ∧
    (value.kind ≠ .custom → ∀ result, (ofRegistrations registrations).write? value = some result ↔
      ∃ before writer behind, registrations = before ++ .kind value.kind writer :: behind ∧
        writer.accepts value = true ∧ writer.write value = result ∧
        ∀ earlier, .kind value.kind earlier ∈ before → earlier.accepts value = false) ∧
    (∀ own, value = .custom own → ∀ result, (ofRegistrations registrations).write? value = some result ↔
      ∃ before write behind, registrations = before ++ .custom own.typeName write :: behind ∧
        write own = result ∧ ∀ earlier, .custom own.typeName earlier ∉ before) ∧
    (∀ others : List Registration,
      (others.filter fun registration => registration.concerns value) =
        (registrations.filter fun registration => registration.concerns value) →
      (ofRegistrations others).accepts value = (ofRegistrations registrations).accepts value ∧
        (ofRegistrations others).write? value = (ofRegistrations registrations).write? value) ∧
    ∀ more, (ofRegistrations registrations).accepts value = true →
      (ofRegistrations (registrations ++ more)).accepts value = true ∧
        (ofRegistrations (registrations ++ more)).write? value = (ofRegistrations registrations).write? value := by
  refine ⟨accepts_iff_written _ value, write?_eq_some_iff registrations, ?_, fun others alike => ?_,
    fun more accepted => ?_⟩
  · rintro own rfl
    exact write?_custom_eq_some_iff registrations own
  · have written : (ofRegistrations others).write? value = (ofRegistrations registrations).write? value := by
      rw [write?_ofRegistrations, write?_ofRegistrations, ← findSome?_concerning others, alike, findSome?_concerning]
    exact ⟨accepts_congr written, written⟩
  · obtain ⟨result, given⟩ := (accepts_iff_written _ value).mp accepted
    have written : (ofRegistrations (registrations ++ more)).write? value =
        (ofRegistrations registrations).write? value := by
      rw [write?_ofRegistrations] at given
      rw [write?_ofRegistrations, write?_ofRegistrations, List.findSome?_append, given, Option.some_or]
    exact ⟨(accepts_congr written).trans accepted, written⟩

/-- A date passes by a writer of its kind that does not take it, and a label by the writer of all application values and
the second one of its type. -/
theorem date_and_label_find_first :
    let registrations : List Registration :=
      [.kind .custom (.constant "any"), .kind (.scalar .date) .uuid, .custom "Label" writePayload,
        .kind (.scalar .date) .temporal, .custom "Label" fun _ => .ok .null, .kind (.scalar .date) (.constant "late")]
    let day : Value := .scalar .date (some ⟨2024, 1, 1, by decide⟩)
    let label : Custom := ⟨"Label", .text "l", 0⟩
    let rest : List Registration := [.kind (.scalar .date) (.failing "never")]
    (ofRegistrations registrations).write? day = some (Writer.temporal.write day) ∧
      (ofRegistrations registrations).write? (.custom label) = some (.ok (.text "l")) ∧
      (ofRegistrations (registrations.tail ++ rest)).write? (.custom label) = some (.ok (.text "l")) ∧
      (ofRegistrations (registrations ++ rest)).write? day = some (Writer.temporal.write day) := by
  intro registrations day label rest
  obtain ⟨taken, byKind, _, _, further⟩ := first_registration_writes registrations day
  obtain ⟨_, _, byType, others, _⟩ := first_registration_writes registrations (.custom label)
  have dated : (ofRegistrations registrations).write? day = some (Writer.temporal.write day) := by
    refine (byKind (by decide) _).mpr ⟨registrations.take 3, .temporal, registrations.drop 4, rfl, rfl, rfl, ?_⟩
    intro earlier member
    have known : earlier = .uuid := by simpa [registrations, day, Value.kind] using member
    exact known ▸ rfl
  have shown : (ofRegistrations registrations).write? (.custom label) = some (.ok (.text "l")) := by
    refine (byType label rfl _).mpr ⟨registrations.take 2, writePayload, registrations.drop 3, rfl, rfl, ?_⟩
    simp [registrations]
  exact ⟨dated, shown, (others (registrations.tail ++ rest) rfl).2.trans shown,
    (further rest (taken.mpr ⟨_, dated⟩)).2.trans dated⟩

end Registry

end Polystore
