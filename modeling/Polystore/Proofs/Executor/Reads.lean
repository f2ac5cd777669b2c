import Polystore.Executor

/-!
What the parts of a read give and leave, one equation for each part. A predicate is built without a look at
the state; a native call gives what the session gives, its failures wrapped; a walk over pages ends at the
first page whose cursor is exhausted, or at the first failure.
-/
namespace Polystore

open Polystore.Action

variable {ε σ P : Type}

/-- The predicate of a condition that may be absent, whatever requests building it takes. -/
def PredicateBuilder.predicateFor (builder : PredicateBuilder P) : Option Condition → Except Failure (Option P)
  | none => .ok none
  | some condition => (effect (builder.build condition) []).1.map some

@[simp] theorem PredicateBuilder.effect_predicateOf? (builder : PredicateBuilder P)
    (condition : Option Condition) (state : σ) :
    effect (builder.predicateOf? condition) state = (builder.predicateFor condition, state) := by
  cases condition with
  | none => rfl
  | some condition =>
    simp only [predicateOf?, predicateOf, effect_bind, effect_alone, predicateFor]
    cases (effect (builder.build condition) []).1 <;> rfl

/-- A walk ends with the first page whose cursor is exhausted. -/
theorem effect_follow_last {read : Cursor → Action ε σ Page} {cursor : Cursor} {page : Page} {state after : σ}
    (first : effect (read cursor) state = (.ok page, after)) (last : page.cursor.exhausted = true)
    (budget : Nat) : effect (follow read (budget + 1) cursor) state = (.ok page, after) := by
  simp [follow, effect_bind, first, last]

/-- A page and a page behind it, as one. -/
def Page.followedBy (page rest : Page) : Page := ⟨page.entities ++ rest.entities, rest.cursor⟩

/-- A walk goes on from the cursor of a page that is not the last, and fails if it fails there. -/
theorem effect_follow_more {read : Cursor → Action ε σ Page} {cursor : Cursor} {page : Page} {state middle : σ}
    (first : effect (read cursor) state = (.ok page, middle)) (more : page.cursor.exhausted = false) (budget : Nat) :
    effect (follow read (budget + 1) cursor) state =
      ((effect (follow read budget page.cursor) middle).1.map page.followedBy,
        (effect (follow read budget page.cursor) middle).2) := by
  simp only [follow, effect_bind, first, more, Bool.false_eq_true, if_false]
  cases walked : effect (follow read budget page.cursor) middle with
  | mk result after => cases result <;> rfl

theorem effect_follow_next {read : Cursor → Action ε σ Page} {cursor : Cursor} {page rest : Page}
    {state middle after : σ} {budget : Nat} (first : effect (read cursor) state = (.ok page, middle))
    (more : page.cursor.exhausted = false)
    (others : effect (follow read budget page.cursor) middle = (.ok rest, after)) :
    effect (follow read (budget + 1) cursor) state = (.ok ⟨page.entities ++ rest.entities, rest.cursor⟩, after) := by
  rw [effect_follow_more first more, others]
  rfl

/-- A walk fails with its first failure. -/
theorem effect_follow_failed {read : Cursor → Action ε σ Page} {cursor : Cursor} {error : ε} {state after : σ}
    (first : effect (read cursor) state = (.error error, after)) (budget : Nat) :
    effect (follow read (budget + 1) cursor) state = (.error error, after) := by
  simp [follow, effect_bind, first]

namespace Executor

theorem effect_call (executor : Executor σ P) (statement : Statement P) (state : σ) :
    effect (executor.call statement) state =
      ((effect (executor.session.execute statement) state).1.mapError
        (executor.executionFailure statement.collection), (effect (executor.session.execute statement) state).2) := by
  simp only [call, effect_bind, effect_attempt]
  cases (effect (executor.session.execute statement) state).1 with
  | ok response => rfl
  | error cause => simp [effect_bind]

theorem effect_nativePage (executor : Executor σ P) (query : Query) (predicate : Option P) (cursor : Cursor)
    (state : σ) :
    effect (executor.nativePage query predicate cursor) state =
      (((effect (executor.session.execute (query.statement predicate cursor.token)) state).1.mapError
        (executor.executionFailure query.collection)).map (executor.pageOf query),
        (effect (executor.session.execute (query.statement predicate cursor.token)) state).2) := by
  simp only [nativePage, effect_bind, effect_call]
  have named : (query.statement predicate cursor.token).collection = query.collection := rfl
  cases (effect (executor.session.execute (query.statement predicate cursor.token)) state).1 with
  | error cause => simp [Except.map, named]
  | ok response =>
    -- The warning about a response without a token changes nothing but the log.
    by_cases cutOff : response.isCutOff = true <;> simp [effect_bind, Except.map, cutOff]

theorem effect_select_exhausted (executor : Executor σ P) (budget : Nat) (query : Query) {cursor : Cursor}
    (last : cursor.exhausted = true) (state : σ) :
    effect (executor.select budget query cursor) state = (.ok (.empty cursor), state) := by
  simp [select, last]

theorem effect_select (executor : Executor σ P) (budget : Nat) (query : Query) {cursor : Cursor}
    (more : cursor.exhausted = false) (state : σ) :
    effect (executor.select budget query cursor) state =
      match requireCollection query.collection, executor.session.builder.predicateFor query.condition with
      | .error failure, _ => (.error failure, state)
      | .ok _, .error failure => (.error failure, state)
      | .ok _, .ok predicate =>
        match executor.mode with
        | .pagingState => effect (executor.nativePage query predicate cursor) state
        | .drain => effect (follow (executor.nativePage query predicate) budget cursor) state := by
  simp only [select, more, Bool.false_eq_true, if_false, effect_bind, effect_ofResult,
    PredicateBuilder.effect_predicateOf?]
  cases requireCollection query.collection with
  | error failure => rfl
  | ok _ =>
    cases executor.session.builder.predicateFor query.condition with
    | error failure => rfl
    | ok predicate => cases executor.mode <;> rfl

theorem effect_deletePredicate (executor : Executor σ P) (query : DeleteQuery) (state : σ) :
    effect (executor.deletePredicate query) state =
      (requireCollection query.collection >>= fun _ => executor.session.builder.predicateFor query.condition,
        state) := by
  simp only [deletePredicate, effect_bind, effect_ofResult]
  cases requireCollection query.collection with
  | error failure => rfl
  | ok _ => simp [Bind.bind, Except.bind]

end Executor

end Polystore
