import Mathlib.Data.List.Perm.Subperm
import Polystore.Url.Parameters

/-!
Taking parameters. A parameter that is taken by its name is removed, and no other name is affected, so that what is
found under a name does not depend on what has been taken before. When all names that somebody takes have been taken,
nothing is left over just when the parameters have names among these, each at most once.
-/
namespace Polystore.Parameters

open Polystore.Action

/-- What a parameter is: what is given under its name, or else its variable. -/
def lookUp (environment : Environment) (parameters : Parameters) (name : String) : Option String :=
  (Named.find? parameters name).or (environment (variableOf name))

theorem drop_of_not_mem {name : String} {parameters : Parameters} (absent : name ∉ Named.names parameters) :
    drop name parameters = parameters := by
  induction parameters with
  | nil => rfl
  | cons item rest ih =>
    have other : ¬ item.name = name := fun same => absent (List.mem_cons.mpr (.inl same.symm))
    rw [drop, if_neg other, ih fun member => absent (List.mem_cons_of_mem _ member)]

theorem names_drop (name : String) (parameters : Parameters) :
    Named.names (drop name parameters) = (Named.names parameters).erase name := by
  induction parameters with
  | nil => rfl
  | cons item rest ih =>
    have shown : Named.names (item :: rest) = item.name :: Named.names rest := rfl
    rw [drop, shown, List.erase_cons]
    by_cases here : item.name = name
    · simp [here]
    · simp only [here, if_false, beq_iff_eq]
      exact congrArg (item.name :: ·) ih

theorem find?_drop {name other : String} (different : name ≠ other) (parameters : Parameters) :
    Named.find? (drop name parameters) other = Named.find? parameters other := by
  induction parameters with
  | nil => rfl
  | cons item rest ih =>
    rw [drop]
    by_cases here : item.name = name
    · rw [if_pos here, Named.find?_cons, if_neg (here ▸ different)]
    · rw [if_neg here, Named.find?_cons, Named.find?_cons, ih]

theorem lookUp_drop (environment : Environment) {name other : String} (different : name ≠ other)
    (parameters : Parameters) :
    lookUp environment (drop name parameters) other = lookUp environment parameters other := by
  rw [lookUp, lookUp, find?_drop different]

theorem effect_take (environment : Environment) (name : String) (parameters : Parameters) :
    effect (take environment name) parameters = (.ok (lookUp environment parameters name), drop name parameters) := by
  rw [take, effect_bind, effect_state, lookUp]
  simp only
  cases found : Named.find? parameters name with
  | some value => rfl
  | none =>
    have absent : name ∉ Named.names parameters := by
      have nothing : Named.has parameters name = false := by rw [← Named.isSome_find?, found]; rfl
      simpa [Named.has, Named.names] using nothing
    rw [drop_of_not_mem absent]
    rfl

/-- What a parameter that is one of some names is read as. -/
def readNamed {α : Type} (ofName : String → Except Failure α) (default : α) : Option String → Except Failure α
  | none => .ok default
  | some text => ofName text

theorem effect_takeNamed {α : Type} (environment : Environment) (name : String) (ofName : String → Except Failure α)
    (default : α) (parameters : Parameters) :
    effect (takeNamed environment name ofName default) parameters =
      (readNamed ofName default (lookUp environment parameters name), drop name parameters) := by
  rw [takeNamed, effect_bind, effect_take]
  cases lookUp environment parameters name <;> rfl

/-- What is left when names have been taken one after another. -/
def leftOver (names : List String) (parameters : Parameters) : Parameters :=
  names.foldl (fun rest name => drop name rest) parameters

theorem names_leftOver (names : List String) (parameters : Parameters) :
    Named.names (leftOver names parameters) = (Named.names parameters).diff names := by
  induction names generalizing parameters with
  | nil => rfl
  | cons name rest ih => rw [leftOver, List.foldl_cons, List.diff_cons, ← names_drop, ← ih]; rfl

/-- Parameters with names among some, each at most once. -/
structure Among (known : List String) (parameters : Parameters) : Prop where
  once : Named.Distinct parameters
  known : ∀ item ∈ parameters, item.name ∈ known

theorem diff_eq_nil_iff (names known : List String) : names.diff known = [] ↔ names.Subperm known := by
  induction known generalizing names with
  | nil => rw [List.diff_nil, List.subperm_nil]
  | cons name rest ih =>
    rw [List.diff_cons, ih]
    constructor
    · exact fun within => (List.subperm_cons_erase name names).trans ((List.subperm_cons name).mpr within)
    · intro within
      simpa using within.erase name

/-- Nothing is left over just when each name is known and comes once. -/
theorem leftOver_eq_nil_iff {known : List String} (distinct : known.Nodup) {parameters : Parameters} :
    leftOver known parameters = [] ↔ Among known parameters := by
  have named : leftOver known parameters = [] ↔ (Named.names parameters).Subperm known := by
    rw [← diff_eq_nil_iff, ← names_leftOver, Named.names, List.map_eq_nil_iff]
  rw [named]
  constructor
  · rintro ⟨reordered, perm, sublist⟩
    refine ⟨perm.nodup_iff.mp (sublist.nodup distinct), fun item member => ?_⟩
    exact sublist.subset (perm.mem_iff.mpr (List.mem_map_of_mem member))
  · rintro ⟨once, among⟩
    refine List.subperm_of_subset once fun name member => ?_
    obtain ⟨item, present, rfl⟩ := List.mem_map.mp member
    exact among item present

section Reordered

variable {parameters permuted : Parameters}

theorem Among.perm {known : List String} (reordered : permuted.Perm parameters) :
    Among known permuted ↔ Among known parameters := by
  have once : Named.Distinct permuted ↔ Named.Distinct parameters := (reordered.map Named.name).nodup_iff
  have among : (∀ item ∈ permuted, item.name ∈ known) ↔ ∀ item ∈ parameters, item.name ∈ known :=
    forall_congr' fun item => by rw [reordered.mem_iff]
  exact ⟨fun ⟨o, k⟩ => ⟨once.mp o, among.mp k⟩, fun ⟨o, k⟩ => ⟨once.mpr o, among.mpr k⟩⟩

/-- Where each name comes once, what a parameter is does not depend on the order. -/
theorem lookUp_of_perm (environment : Environment) (reordered : permuted.Perm parameters)
    (once : Named.Distinct parameters) (name : String) :
    lookUp environment permuted name = lookUp environment parameters name := by
  have distinct : Named.Distinct permuted := (reordered.map Named.name).nodup_iff.mpr once
  have same : Named.find? permuted name = Named.find? parameters name := by
    refine Option.ext fun value => ?_
    constructor
    · exact fun found => Named.find?_of_mem once (reordered.subset (Named.mem_of_find? found))
    · exact fun found => Named.find?_of_mem distinct (reordered.symm.subset (Named.mem_of_find? found))
  rw [lookUp, lookUp, same]

end Reordered

/-! ### Taking all -/

/-- Takes parameters of some names, one after another, which have to be all that there are. -/
def takeAll (environment : Environment) : List String → Action Failure Parameters (List (Option String))
  | [] => do
    finish (← Action.state)
    return []
  | name :: rest => do
    let given ← take environment name
    let others ← takeAll environment rest
    return given :: others

/-- Whatever the environment and the order in which they are taken, all parameters are what they were given as, and
nothing is left over. -/
def Arrive (pairs : List (Named String)) (parameters : Parameters) : Prop :=
  ∀ (environment : Environment) (order : List (Named String)), order.Perm pairs →
    (effect (takeAll environment (Named.names order)) parameters).1 = .ok (order.map fun item => some item.value)

theorem result_takeAll_nil (environment : Environment) (parameters : Parameters) :
    (effect (takeAll environment []) parameters).1 = .ok [] ↔ parameters = [] := by
  cases parameters with
  | nil => exact ⟨fun _ => rfl, fun _ => rfl⟩
  | cons item rest => exact ⟨nofun, nofun⟩

theorem result_takeAll_cons (environment : Environment) (name : String) (rest : List String) (parameters : Parameters) :
    (effect (takeAll environment (name :: rest)) parameters).1 =
      (effect (takeAll environment rest) (drop name parameters)).1.map (lookUp environment parameters name :: ·) := by
  rw [takeAll, result_bind (effect_take ..), Except.ok_bind, effect_bind]
  rcases effect (takeAll environment rest) (drop name parameters) with ⟨_ | others, after⟩ <;> rfl

theorem perm_drop {parameters : Parameters} {name value : String} (found : Named.find? parameters name = some value) :
    parameters.Perm (⟨name, value⟩ :: drop name parameters) := by
  induction parameters with
  | nil => cases found
  | cons item rest ih =>
    rw [Named.find?_cons] at found
    rw [drop]
    by_cases here : item.name = name
    · rw [if_pos here] at found ⊢
      subst here
      rw [← Option.some.inj found]
    · rw [if_neg here] at found ⊢
      exact ((ih found).cons item).trans (List.Perm.swap ..)

theorem perm_of_takeAll {pairs : List (Named String)} {parameters : Parameters}
    (taken : (effect (takeAll (fun _ => none) (Named.names pairs)) parameters).1 =
      .ok (pairs.map fun item => some item.value)) : parameters.Perm pairs := by
  induction pairs generalizing parameters with
  | nil => rw [(result_takeAll_nil _ parameters).mp taken]
  | cons item rest ih =>
    rw [Named.names, List.map_cons, result_takeAll_cons] at taken
    obtain ⟨others, further, same⟩ := Except.of_map_eq_ok taken
    rw [List.map_cons, List.cons.injEq] at same
    have found : Named.find? parameters item.name = some item.value := by
      have shown := same.1
      rwa [lookUp, Option.or_none] at shown
    exact (perm_drop found).trans ((ih (further.trans (congrArg Except.ok same.2))).cons item)

theorem takeAll_of_perm {order : List (Named String)} {parameters : Parameters} (reordered : parameters.Perm order)
    (distinct : Named.Distinct order) (environment : Environment) :
    (effect (takeAll environment (Named.names order)) parameters).1 = .ok (order.map fun item => some item.value) := by
  induction order generalizing parameters with
  | nil => exact (result_takeAll_nil environment parameters).mpr reordered.eq_nil
  | cons item rest ih =>
    have once : Named.Distinct parameters := (reordered.map Named.name).nodup_iff.mpr distinct
    have found : Named.find? parameters item.name = some item.value :=
      Named.find?_of_mem once (reordered.symm.subset (List.mem_cons_self ..))
    have others : (drop item.name parameters).Perm rest :=
      ((perm_drop found).symm.trans reordered).cons_inv
    have further := ih others (List.nodup_cons.mp distinct).2
    rw [Named.names] at further
    rw [Named.names, List.map_cons, result_takeAll_cons, further, lookUp, found]
    rfl

/-- Parameters arrive just when they are those of the url, in any order. -/
theorem arrive_iff {pairs : List (Named String)} (distinct : Named.Distinct pairs) {parameters : Parameters} :
    Arrive pairs parameters ↔ parameters.Perm pairs := by
  constructor
  · exact fun arrive => perm_of_takeAll (arrive (fun _ => none) pairs (List.Perm.refl pairs))
  · intro reordered environment order permuted
    exact takeAll_of_perm (reordered.trans permuted.symm) ((permuted.map Named.name).nodup_iff.mpr distinct) environment

end Polystore.Parameters
