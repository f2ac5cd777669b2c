import Mathlib.Logic.Relation
import Polystore.Proofs.Executor.Conversations
import Polystore.Proofs.Executor.Walks

/-!
Walks over a session that fails now and then, and whose answers depend on the token alone. A native call that is made
again after each failure gets through if no statement is refused for ever, and a walk if no token is. They give what
they give over a session that never fails: a failed walk leaves nothing behind but the state of the session.
-/
namespace Polystore

open Polystore.Action

variable {ε σ α P : Type}

/-- A computation fails in one state and leaves another. -/
def Action.Fails (action : Action ε σ α) (before after : σ) : Prop :=
  ∃ failure, effect action before = (.error failure, after)

/-- A computation that is run again whenever it fails gives a value in the end. -/
def Action.GetsThrough (action : Action ε σ α) (value : α) (state : σ) : Prop :=
  ∃ between after, Relation.ReflTransGen action.Fails state between ∧ effect action between = (.ok value, after)

theorem Action.GetsThrough.again {action : Action ε σ α} {value : α} {state later : σ}
    (fails : Relation.ReflTransGen action.Fails state later) (through : action.GetsThrough value later) :
    action.GetsThrough value state := by
  obtain ⟨between, after, failsToo, gives⟩ := through
  exact ⟨between, after, fails.trans failsToo, gives⟩

theorem Action.GetsThrough.congr {action other : Action ε σ α}
    (same : ∀ state, effect action state = effect other state) {value : α} {state : σ}
    (through : action.GetsThrough value state) : other.GetsThrough value state := by
  obtain ⟨between, after, fails, gives⟩ := through
  have failsToo : action.Fails ≤ other.Fails := by
    intro before after failed
    obtain ⟨failure, failed⟩ := failed
    exact ⟨failure, (same before).symm.trans failed⟩
  exact ⟨between, after, Relation.ReflTransGen.mono failsToo _ _ fails, (same between).symm.trans gives⟩

/-- A walk fails where a shorter one does. -/
theorem fails_le_longer {read : Cursor → Action ε σ Page} {cursor : Cursor} (more : cursor.exhausted = false)
    (budget further : Nat) : (follow read budget cursor).Fails ≤ (follow read (budget + further) cursor).Fails := by
  intro before after fails
  obtain ⟨failure, failed⟩ := fails
  refine ⟨failure, ?_⟩
  rw [effect_follow_settled more _ further]
  · exact failed
  · intro page gives
    rw [failed] at gives
    cases gives

namespace Session

/-- Responses depend on the token of a statement alone, not on what was asked before nor on how often. -/
def Answers (session : Session σ P) (answers : Option PagingToken → Response) : Prop :=
  ∀ statement state response, (effect (session.execute statement) state).1 = .ok response →
    response = answers statement.token

/-- A session refuses a statement any number of times before it answers it, but not for ever. -/
def Recovers (session : Session σ P) : Prop :=
  ∀ statement, WellFounded fun after before => (session.execute statement).Fails before after

/-- A statement with another token is asked. -/
def Spares (session : Session σ P) (token : Option PagingToken) (before after : σ) : Prop :=
  ∃ statement, statement.token ≠ token ∧ (effect (session.execute statement) before).2 = after

/-- A statement with a token is refused, after any statements with other tokens. -/
def Refuses (session : Session σ P) (token : Option PagingToken) (before after : σ) : Prop :=
  ∃ between, Relation.ReflTransGen (session.Spares token) before between ∧
    ∃ statement cause, statement.token = token ∧ effect (session.execute statement) between = (.error cause, after)

/-- A session refuses a token any number of times before it answers it, but not for ever, however often it is asked
for other tokens in between. -/
def Patient (session : Session σ P) : Prop :=
  ∀ token, WellFounded fun after before => session.Refuses token before after

/-- A session that never fails. -/
def reliable (builder : PredicateBuilder P) (answers : Option PagingToken → Response) : Session Unit P where
  builder := builder
  execute statement := pure (answers statement.token)

end Session

/-- Behind so many responses that are not the last comes the last one. -/
def EndsIn (answers : Option PagingToken → Response) : Nat → Option PagingToken → Prop
  | 0, token => (answers token).isLast = true
  | count + 1, token => (answers token).isLast = false ∧ EndsIn answers count (answers token).token

theorem EndsIn.unique {answers : Option PagingToken → Response} {count other : Nat} {token : Option PagingToken}
    (ends : EndsIn answers count token) (endsToo : EndsIn answers other token) : count = other := by
  induction count generalizing other token with
  | zero =>
    cases other with
    | zero => rfl
    | succ other => exact absurd (ends.symm.trans endsToo.1) (by decide)
  | succ count ih =>
    cases other with
    | zero => exact absurd (endsToo.symm.trans ends.1) (by decide)
    | succ other => rw [ih ends.2 endsToo.2]

namespace Executor

/-- The same executor over a session that never fails. -/
def reliable (executor : Executor σ P) (answers : Option PagingToken → Response) : Executor Unit P :=
  ⟨.reliable executor.session.builder answers, executor.converter, executor.mode⟩

/-- What a walk gives when nothing fails. -/
def walked (executor : Executor σ P) (query : Query) (answers : Option PagingToken → Response) :
    Nat → Cursor → Page
  | 0, cursor => .empty cursor
  | budget + 1, cursor =>
    let page := executor.pageOf query (answers cursor.token)
    if page.cursor.exhausted then page else page.followedBy (executor.walked query answers budget page.cursor)

section

variable {executor : Executor σ P} {query : Query} {answers : Option PagingToken → Response} {predicate : Option P}

theorem walked_last {cursor : Cursor} (last : (answers cursor.token).isLast = true) (budget : Nat) :
    executor.walked query answers (budget + 1) cursor = executor.pageOf query (answers cursor.token) := by
  rw [walked, if_pos (executor.exhausted_pageOf query last)]

theorem walked_more {cursor : Cursor} (more : (answers cursor.token).isLast = false) (budget : Nat) :
    executor.walked query answers (budget + 1) cursor =
      (executor.pageOf query (answers cursor.token)).followedBy
        (executor.walked query answers budget ⟨(answers cursor.token).token, false⟩) := by
  rw [walked, executor.cursor_pageOf query more]
  rfl

theorem walked_one (executor : Executor σ P) (query : Query) (answers : Option PagingToken → Response)
    (cursor : Cursor) : executor.walked query answers 1 cursor = executor.pageOf query (answers cursor.token) := by
  cases last : (answers cursor.token).isLast with
  | true => exact walked_last last 0
  | false =>
    rw [walked_more last, ← executor.cursor_pageOf query last]
    exact Page.followedBy_empty _

/-- A walk over a session that never fails. -/
theorem effect_follow_reliable (executor : Executor σ P) (query : Query) (answers : Option PagingToken → Response)
    (predicate : Option P) (budget : Nat) (cursor : Cursor) :
    effect (follow ((executor.reliable answers).nativePage query predicate) budget cursor) () =
      (.ok (executor.walked query answers budget cursor), ()) := by
  induction budget generalizing cursor with
  | zero => rfl
  | succ budget ih =>
    have page : effect ((executor.reliable answers).nativePage query predicate cursor) () =
        (.ok (executor.pageOf query (answers cursor.token)), ()) :=
      (executor.reliable answers).effect_nativePage query predicate cursor ()
    cases last : (answers cursor.token).isLast with
    | true =>
      rw [walked_last last]
      exact effect_follow_last page (executor.exhausted_pageOf query last) budget
    | false =>
      have resumes := executor.cursor_pageOf query last
      rw [effect_follow_more page (congrArg Cursor.exhausted resumes), ih, resumes, walked_more last]
      rfl

/-- A longer walk goes on where a shorter one stops. -/
theorem walked_add (executor : Executor σ P) (query : Query) (answers : Option PagingToken → Response)
    (first second : Nat) {cursor : Cursor} (more : cursor.exhausted = false) :
    executor.walked query answers (first + second) cursor =
      let page := executor.walked query answers first cursor
      if page.cursor.exhausted then page
      else page.followedBy (executor.walked query answers second page.cursor) := by
  let read := (executor.reliable answers).nativePage query none
  have joined := effect_follow_add read first second more ()
  rw [effect_follow_reliable, effect_follow_reliable] at joined
  change _ = effect (goOn read second (executor.walked query answers first cursor)) () at joined
  cases last : (executor.walked query answers first cursor).cursor.exhausted with
  | true =>
    rw [effect_goOn_last read second last] at joined
    simp only [last, if_true]
    exact Except.ok.inj (congrArg Prod.fst joined)
  | false =>
    rw [effect_goOn_more read second last, effect_follow_reliable] at joined
    simp only [last, Bool.false_eq_true, if_false]
    exact Except.ok.inj (congrArg Prod.fst joined)

/-- The last response comes behind where a walk stops that is not at its end. -/
theorem endsIn_behind {count budget : Nat} {cursor : Cursor} (ends : EndsIn answers count cursor.token)
    (more : (executor.walked query answers budget cursor).cursor.exhausted = false) :
    ∃ rest, count = budget + rest ∧ EndsIn answers rest (executor.walked query answers budget cursor).cursor.token := by
  induction budget generalizing count cursor with
  | zero => exact ⟨count, (Nat.zero_add count).symm, ends⟩
  | succ budget ih =>
    cases count with
    | zero =>
      rw [walked_last ends, executor.exhausted_pageOf query ends] at more
      cases more
    | succ count =>
      rw [walked_more ends.1] at more ⊢
      obtain ⟨rest, counted, behind⟩ := ih ends.2 more
      exact ⟨rest, by omega, behind⟩

/-- A walk that comes to its end has met the last response. -/
theorem endsIn_of_walked {budget : Nat} {cursor : Cursor} (more : cursor.exhausted = false)
    (ended : (executor.walked query answers budget cursor).cursor.exhausted = true) :
    ∃ count, EndsIn answers count cursor.token := by
  induction budget generalizing cursor with
  | zero => exact absurd (more.symm.trans ended) (by decide)
  | succ budget ih =>
    cases last : (answers cursor.token).isLast with
    | true => exact ⟨0, last⟩
    | false =>
      rw [walked_more last] at ended
      obtain ⟨count, ends⟩ := ih rfl ended
      exact ⟨count + 1, last, ends⟩

/-- A native call over a session whose answers depend on the token: it is refused, or gives the page of the
answer. -/
theorem nativePage_answers (truthful : executor.session.Answers answers) (query : Query) (predicate : Option P)
    (cursor : Cursor) (state : σ) :
    (∃ cause after,
        effect (executor.session.execute (query.statement predicate cursor.token)) state = (.error cause, after) ∧
        effect (executor.nativePage query predicate cursor) state =
          (.error (executor.executionFailure query.collection cause), after)) ∨
      ∃ after, (effect (executor.session.execute (query.statement predicate cursor.token)) state).2 = after ∧
        effect (executor.nativePage query predicate cursor) state =
          (.ok (executor.pageOf query (answers cursor.token)), after) := by
  have page := executor.effect_nativePage query predicate cursor state
  have told := truthful (query.statement predicate cursor.token) state
  cases asked : effect (executor.session.execute (query.statement predicate cursor.token)) state with
  | mk result after =>
    rw [asked] at page told
    cases result with
    | error cause => exact Or.inl ⟨cause, after, rfl, page⟩
    | ok response =>
      have same : response = answers cursor.token := told response rfl
      subst same
      exact Or.inr ⟨after, rfl, page⟩

/-- A native call that is made again whenever it is refused gives the page of the answer. -/
theorem page_gets_through (truthful : executor.session.Answers answers) (recovers : executor.session.Recovers)
    (query : Query) (predicate : Option P) (cursor : Cursor) (state : σ) :
    (executor.nativePage query predicate cursor).GetsThrough (executor.pageOf query (answers cursor.token)) state := by
  induction state using (recovers (query.statement predicate cursor.token)).induction with
  | h state again =>
    rcases nativePage_answers truthful query predicate cursor state with
      ⟨cause, after, refused, failed⟩ | ⟨after, _, gives⟩
    · exact .again (.single ⟨_, failed⟩) (again after ⟨cause, refused⟩)
    · exact ⟨state, after, .refl, gives⟩

/-- What a walk gives does not depend on what failed before it. -/
theorem follow_truthful (truthful : executor.session.Answers answers) {budget : Nat} {cursor : Cursor}
    {state after : σ} {page : Page}
    (gives : effect (follow (executor.nativePage query predicate) budget cursor) state = (.ok page, after)) :
    page = executor.walked query answers budget cursor := by
  induction budget generalizing cursor state after page with
  | zero => exact (Except.ok.inj (congrArg Prod.fst gives)).symm
  | succ budget ih =>
    rcases nativePage_answers truthful query predicate cursor state with
      ⟨cause, middle, _, failed⟩ | ⟨middle, _, first⟩
    · rw [effect_follow_failed failed] at gives
      cases gives
    · cases last : (answers cursor.token).isLast with
      | true =>
        rw [effect_follow_last first (executor.exhausted_pageOf query last)] at gives
        rw [walked_last last]
        exact (Except.ok.inj (congrArg Prod.fst gives)).symm
      | false =>
        have resumes := executor.cursor_pageOf query last
        rw [effect_follow_more first (congrArg Cursor.exhausted resumes), resumes] at gives
        cases others : effect (follow (executor.nativePage query predicate) budget
          ⟨(answers cursor.token).token, false⟩) middle with
        | mk result final =>
          rw [others] at gives
          cases result with
          | error failure => cases gives
          | ok rest =>
            rw [walked_more last, ← ih others]
            exact (Except.ok.inj (congrArg Prod.fst gives)).symm

/-- A walk that stops before a token asks for others only. -/
theorem follow_spares (truthful : executor.session.Answers answers) {token : Option PagingToken} {rest : Nat}
    (behind : EndsIn answers rest token) {budget count : Nat} {cursor : Cursor}
    (ends : EndsIn answers count cursor.token) (before : budget + rest ≤ count) (state : σ) :
    Relation.ReflTransGen (executor.session.Spares token) state
      (effect (follow (executor.nativePage query predicate) budget cursor) state).2 := by
  induction budget generalizing count cursor state with
  | zero => exact .refl
  | succ budget ih =>
    have apart : cursor.token ≠ token := by
      intro same
      have equal := ends.unique (same ▸ behind)
      omega
    rcases nativePage_answers truthful query predicate cursor state with
      ⟨cause, middle, refused, failed⟩ | ⟨middle, answered, first⟩
    · rw [effect_follow_failed failed]
      exact .single ⟨query.statement predicate cursor.token, apart, congrArg Prod.snd refused⟩
    · have spared : executor.session.Spares token state middle :=
        ⟨query.statement predicate cursor.token, apart, answered⟩
      cases count with
      | zero => omega
      | succ count =>
        have resumes := executor.cursor_pageOf query ends.1
        rw [effect_follow_more first (congrArg Cursor.exhausted resumes), resumes]
        exact .head spared (ih ends.2 (by omega) middle)

/-- A walk with one call more goes on behind the page of the shorter one. -/
theorem effect_follow_further {budget : Nat} {cursor : Cursor} {page : Page} {state middle : σ}
    (more : cursor.exhausted = false) (resumes : page.cursor.exhausted = false)
    (gives : effect (follow (executor.nativePage query predicate) budget cursor) state = (.ok page, middle)) :
    effect (follow (executor.nativePage query predicate) (budget + 1) cursor) state =
      ((effect (executor.nativePage query predicate page.cursor) middle).1.map page.followedBy,
        (effect (executor.nativePage query predicate page.cursor) middle).2) := by
  rw [effect_follow_add _ budget 1 more, gives]
  simp only [effect_goOn_more _ 1 resumes, effect_follow_one]

/-- If a walk gets through, so does the walk with one call more: each time that it is made the shorter walk comes to
the same token, and that token is not refused for ever. -/
theorem gets_through_further (truthful : executor.session.Answers answers) {budget : Nat} {cursor : Cursor}
    {page : Page} (more : cursor.exhausted = false) (resumes : page.cursor.exhausted = false)
    (patient : WellFounded fun after before => executor.session.Refuses page.cursor.token before after)
    (shorter : ∀ state, (follow (executor.nativePage query predicate) budget cursor).GetsThrough page state)
    (spares : ∀ state, Relation.ReflTransGen (executor.session.Spares page.cursor.token) state
      (effect (follow (executor.nativePage query predicate) budget cursor) state).2) (state : σ) :
    (follow (executor.nativePage query predicate) (budget + 1) cursor).GetsThrough
      (page.followedBy (executor.pageOf query (answers page.cursor.token))) state := by
  have spared : (follow (executor.nativePage query predicate) budget cursor).Fails ≤
      Relation.ReflTransGen (executor.session.Spares page.cursor.token) := by
    intro before after fails
    obtain ⟨failure, failed⟩ := fails
    have steps := spares before
    rwa [failed] at steps
  -- Each turn of the induction is one more refusal of the token.
  induction state using patient.induction with
  | h state again =>
    obtain ⟨between, after, fails, gives⟩ := shorter state
    have failsToo := Relation.ReflTransGen.mono (fails_le_longer more budget 1) _ _ fails
    have further := effect_follow_further more resumes gives
    rcases nativePage_answers truthful query predicate page.cursor after with
      ⟨cause, final, refused, failed⟩ | ⟨final, _, next⟩
    · rw [failed] at further
      have last := spares between
      rw [gives] at last
      have upTo := (Relation.reflTransGen_closed spared _ _ fails).trans last
      have refuses : executor.session.Refuses page.cursor.token state final :=
        ⟨after, upTo, query.statement predicate page.cursor.token, cause, rfl, refused⟩
      exact .again (failsToo.tail ⟨_, further⟩) (again final refuses)
    · rw [next] at further
      exact ⟨between, final, failsToo, further⟩

/-- A walk that is made again whenever it fails gets through, and gives what it gives when nothing fails. -/
theorem follow_gets_through (truthful : executor.session.Answers answers) (patient : executor.session.Patient)
    (query : Query) (predicate : Option P) {count : Nat} {cursor : Cursor} (more : cursor.exhausted = false)
    (ends : EndsIn answers count cursor.token) (budget : Nat) (state : σ) :
    (follow (executor.nativePage query predicate) budget cursor).GetsThrough
      (executor.walked query answers budget cursor) state := by
  induction budget generalizing state with
  | zero => exact ⟨state, state, .refl, rfl⟩
  | succ budget ih =>
    have whole := executor.walked_add query answers budget 1 more
    cases last : (executor.walked query answers budget cursor).cursor.exhausted with
    | true =>
      simp only [last, if_true] at whole
      obtain ⟨between, after, fails, gives⟩ := ih state
      refine ⟨between, after, Relation.ReflTransGen.mono (fails_le_longer more budget 1) _ _ fails, ?_⟩
      rw [whole, effect_follow_settled more _ 1]
      · exact gives
      · intro page given
        rw [gives] at given
        exact Except.ok.inj given ▸ last
    | false =>
      simp only [last, Bool.false_eq_true, if_false, walked_one] at whole
      obtain ⟨rest, counted, behind⟩ := endsIn_behind ends last
      rw [whole]
      exact gets_through_further truthful more last (patient _) ih
        (follow_spares truthful behind ends (Nat.le_of_eq counted.symm)) state

end

end Executor

end Polystore
