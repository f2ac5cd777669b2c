import Polystore.Proofs.Executor.Reads

/-!
Walks over pages, cut and joined. A walk is a shorter walk and a walk from where that one stops, and a walk over
walks is one walk; so a read in either mode, and a client that reads again from the cursor of each read, are walks
over the pages of single native calls.
-/
namespace Polystore

open Polystore.Action

variable {ε σ P : Type}

theorem Cursor.eq_of_more {cursor : Cursor} (more : cursor.exhausted = false) : ⟨cursor.token, false⟩ = cursor := by
  rw [← more]

/-- Goes on behind a page that is not the last. -/
def goOn (read : Cursor → Action ε σ Page) (budget : Nat) (page : Page) : Action ε σ Page := do
  if page.cursor.exhausted then return page
  let rest ← follow read budget page.cursor
  return page.followedBy rest

theorem effect_goOn_last (read : Cursor → Action ε σ Page) (budget : Nat) {page : Page}
    (last : page.cursor.exhausted = true) (state : σ) : effect (goOn read budget page) state = (.ok page, state) := by
  simp [goOn, last]

theorem effect_goOn_more (read : Cursor → Action ε σ Page) (budget : Nat) {page : Page}
    (more : page.cursor.exhausted = false) (state : σ) :
    effect (goOn read budget page) state =
      ((effect (follow read budget page.cursor) state).1.map page.followedBy,
        (effect (follow read budget page.cursor) state).2) := by
  simp only [goOn, more, Bool.false_eq_true, if_false, effect_bind]
  cases walked : effect (follow read budget page.cursor) state with
  | mk result after => cases result <;> rfl

theorem Page.followedBy_empty (page : Page) : page.followedBy (.empty page.cursor) = page := by
  simp [followedBy, empty]

theorem map_empty_followedBy (cursor : Cursor) (rest : Except ε Page) :
    rest.map (Page.empty cursor).followedBy = rest := by
  cases rest <;> rfl

theorem map_followedBy (first second : Page) (rest : Except ε Page) :
    (rest.map second.followedBy).map first.followedBy = rest.map (first.followedBy second).followedBy := by
  cases rest with
  | error error => rfl
  | ok third => simp [Except.map, Page.followedBy]

/-- Where a walk goes on does not depend on the pages before the last. -/
theorem effect_goOn_followedBy (read : Cursor → Action ε σ Page) (budget : Nat) (page piece : Page) (state : σ) :
    effect (goOn read budget (page.followedBy piece)) state =
      ((effect (goOn read budget piece) state).1.map page.followedBy, (effect (goOn read budget piece) state).2) := by
  cases ended : piece.cursor.exhausted with
  | true =>
    have last : (page.followedBy piece).cursor.exhausted = true := ended
    rw [effect_goOn_last read budget ended, effect_goOn_last read budget last]
    rfl
  | false =>
    have more : (page.followedBy piece).cursor.exhausted = false := ended
    rw [effect_goOn_more read budget ended, effect_goOn_more read budget more, map_followedBy]
    rfl

/-- A walk is a shorter walk, and a walk from where that one stops. -/
theorem effect_follow_add (read : Cursor → Action ε σ Page) (first second : Nat) {cursor : Cursor}
    (more : cursor.exhausted = false) (state : σ) :
    effect (follow read (first + second) cursor) state =
      match effect (follow read first cursor) state with
      | (.ok page, middle) => effect (goOn read second page) middle
      | (.error error, after) => (.error error, after) := by
  induction first generalizing cursor state with
  | zero =>
    have none : effect (follow read 0 cursor) state = (.ok (.empty cursor), state) := rfl
    have goes := effect_goOn_more read second (show (Page.empty cursor).cursor.exhausted = false from more) state
    rw [map_empty_followedBy] at goes
    rw [none, Nat.zero_add]
    exact goes.symm
  | succ first ih =>
    rw [Nat.succ_add]
    cases started : effect (read cursor) state with
    | mk result middle =>
      cases result with
      | error error => rw [effect_follow_failed started, effect_follow_failed started]
      | ok page =>
        cases last : page.cursor.exhausted with
        | true =>
          rw [effect_follow_last started last, effect_follow_last started last]
          exact (effect_goOn_last read second last middle).symm
        | false =>
          rw [effect_follow_more started last, effect_follow_more started last, ih last]
          cases walked : effect (follow read first page.cursor) middle with
          | mk result between =>
            cases result with
            | error error => rfl
            | ok piece => exact (effect_goOn_followedBy read second page piece between).symm

/-- A walk that fails or comes to its end makes no more calls, however many it may make. -/
theorem effect_follow_settled {read : Cursor → Action ε σ Page} {budget : Nat} {cursor : Cursor} {state : σ}
    (more : cursor.exhausted = false)
    (settled : ∀ page, (effect (follow read budget cursor) state).1 = .ok page → page.cursor.exhausted = true)
    (further : Nat) :
    effect (follow read (budget + further) cursor) state = effect (follow read budget cursor) state := by
  rw [effect_follow_add read budget further more]
  cases walked : effect (follow read budget cursor) state with
  | mk result after =>
    cases result with
    | error error => rfl
    | ok page =>
      have last := settled page (congrArg Prod.fst walked)
      exact effect_goOn_last read further last after

/-- A walk with one call is one read. -/
theorem effect_follow_one (read : Cursor → Action ε σ Page) (cursor : Cursor) (state : σ) :
    effect (follow read 1 cursor) state = effect (read cursor) state := by
  cases started : effect (read cursor) state with
  | mk result after =>
    cases result with
    | error error => exact effect_follow_failed started 0
    | ok page =>
      cases last : page.cursor.exhausted with
      | true => exact effect_follow_last started last 0
      | false =>
        rw [effect_follow_more started last]
        exact congrArg (fun whole => (Except.ok whole, after)) page.followedBy_empty

/-- Reads that do the same behind every cursor that is not exhausted make the same walks. -/
theorem effect_follow_congr {read other : Cursor → Action ε σ Page}
    (same : ∀ cursor state, cursor.exhausted = false → effect (read cursor) state = effect (other cursor) state)
    (budget : Nat) {cursor : Cursor} (more : cursor.exhausted = false) (state : σ) :
    effect (follow read budget cursor) state = effect (follow other budget cursor) state := by
  induction budget generalizing cursor state with
  | zero => rfl
  | succ budget ih =>
    have first := same cursor state more
    cases started : effect (other cursor) state with
    | mk result middle =>
      rw [started] at first
      cases result with
      | error error => rw [effect_follow_failed first, effect_follow_failed started]
      | ok page =>
        cases last : page.cursor.exhausted with
        | true => rw [effect_follow_last first last, effect_follow_last started last]
        | false => rw [effect_follow_more first last, effect_follow_more started last, ih last]

/-- A walk over walks is one walk. -/
theorem effect_follow_follow (read : Cursor → Action ε σ Page) (size count : Nat) {cursor : Cursor}
    (more : cursor.exhausted = false) (state : σ) :
    effect (follow (follow read size) count cursor) state = effect (follow read (size * count) cursor) state := by
  induction count generalizing cursor state with
  | zero => rfl
  | succ count ih =>
    rw [Nat.mul_succ, Nat.add_comm (size * count), effect_follow_add read size (size * count) more]
    cases walked : effect (follow read size cursor) state with
    | mk result middle =>
      cases result with
      | error error => exact effect_follow_failed walked count
      | ok page =>
        cases last : page.cursor.exhausted with
        | true =>
          rw [effect_follow_last walked last]
          exact (effect_goOn_last read (size * count) last middle).symm
        | false =>
          rw [effect_follow_more walked last, ih last]
          exact (effect_goOn_more read (size * count) last middle).symm

/-- How many native calls one read may make. -/
def PagingMode.calls : PagingMode → Nat → Nat
  | .pagingState, _ => 1
  | .drain, budget => budget

theorem PagingMode.calls_succ (mode : PagingMode) (budget : Nat) :
    ∃ fewer, mode.calls (budget + 1) = fewer + 1 := by
  cases mode with
  | pagingState => exact ⟨0, rfl⟩
  | drain => exact ⟨budget, rfl⟩

namespace Executor

/-- The predicate of a query that passes its checks. -/
def accepted (executor : Executor σ P) (query : Query) : Except Failure (Option P) := do
  let _ ← requireCollection query.collection
  executor.session.builder.predicateFor query.condition

/-- A query that does not pass its checks fails before anything is asked. -/
theorem effect_select_refused (executor : Executor σ P) {query : Query} {failure : Failure}
    (refused : executor.accepted query = .error failure) (budget : Nat) {cursor : Cursor}
    (more : cursor.exhausted = false) (state : σ) :
    effect (executor.select budget query cursor) state = (.error failure, state) := by
  rw [executor.effect_select budget query more]
  unfold accepted at refused
  cases named : requireCollection query.collection with
  | error blank =>
    rw [named] at refused
    exact congrArg (fun error => (Except.error error, state)) (Except.error.inj refused)
  | ok _ =>
    rw [named, Except.ok_bind] at refused
    rw [refused]

/-- A read is a walk over the pages of native calls. -/
theorem effect_select_accepted (executor : Executor σ P) {query : Query} {predicate : Option P}
    (accepted : executor.accepted query = .ok predicate) (budget : Nat) {cursor : Cursor}
    (more : cursor.exhausted = false) (state : σ) :
    effect (executor.select budget query cursor) state =
      effect (follow (executor.nativePage query predicate) (executor.mode.calls budget) cursor) state := by
  obtain ⟨_, named, built⟩ := Except.of_bind_eq_ok accepted
  rw [executor.effect_select budget query more, named, built]
  cases executor.mode with
  | pagingState => exact (effect_follow_one _ cursor state).symm
  | drain => rfl

/-- A client that reads again from the cursor of each read walks over the pages of native calls. -/
theorem effect_follow_select (executor : Executor σ P) {query : Query} {predicate : Option P}
    (accepted : executor.accepted query = .ok predicate) (budget reads : Nat) {cursor : Cursor}
    (more : cursor.exhausted = false) (state : σ) :
    effect (follow (executor.select budget query) reads cursor) state =
      effect (follow (executor.nativePage query predicate) (executor.mode.calls budget * reads) cursor) state := by
  rw [← effect_follow_follow _ _ _ more]
  have same (cursor : Cursor) (state : σ) (more : cursor.exhausted = false) :=
    executor.effect_select_accepted accepted budget more state
  exact effect_follow_congr same reads more state

end Executor

end Polystore
