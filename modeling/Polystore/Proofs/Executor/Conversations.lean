import Polystore.Proofs.Executor.Walks

/-!
Conversations of an executor with a session. A read asks statements that differ in their tokens only, each with the
token of the response before it, until a response is the last or the session fails. What the read gives is told by
what was said: the rows of the responses in their order, or the failure.
-/
namespace Polystore

open Polystore.Action

variable {ε σ P : Type}

/-- What a session was asked and what it answered. -/
structure Exchange (P : Type) where
  statement : Statement P
  answer : Except Failure Response

namespace Exchange

/-- The rows of an answer that are read. -/
def read (exchange : Exchange P) : List Row :=
  match exchange.answer with
  | .ok response => response.page
  | .error _ => []

/-- All rows of an answer. -/
def buffered (exchange : Exchange P) : List Row :=
  match exchange.answer with
  | .ok response => response.rows
  | .error _ => []

/-- An answer of which all rows can be read before the back end is asked again. -/
def IsWhole (exchange : Exchange P) : Prop := ∀ response, exchange.answer = .ok response → response.boundary = none

theorem read_of_isWhole {exchange : Exchange P} (whole : exchange.IsWhole) : exchange.read = exchange.buffered := by
  unfold read buffered
  cases answered : exchange.answer with
  | error failure => rfl
  | ok response =>
    have all := whole response answered
    simp only [Response.page, all]

theorem flatMap_read {exchanges : List (Exchange P)} (whole : ∀ exchange ∈ exchanges, exchange.IsWhole) :
    exchanges.flatMap read = exchanges.flatMap buffered := by
  induction exchanges with
  | nil => rfl
  | cons exchange rest ih =>
    rw [List.flatMap_cons, List.flatMap_cons, read_of_isWhole (whole exchange (List.mem_cons_self ..)),
      ih fun other member => whole other (List.mem_cons_of_mem exchange member)]

end Exchange

/-- The same session, which also writes down what it is asked and what it answers. -/
def Session.recorded (session : Session σ P) : Session (σ × List (Exchange P)) P where
  builder := session.builder
  execute statement := fun state =>
    let outcome := session.execute statement state.1
    ⟨outcome.result, (outcome.state, state.2 ++ [⟨statement, outcome.result⟩]), outcome.log⟩

theorem Session.effect_recorded (session : Session σ P) (statement : Statement P) (state : σ)
    (record : List (Exchange P)) :
    effect (session.recorded.execute statement) (state, record) =
      ((effect (session.execute statement) state).1,
        ((effect (session.execute statement) state).2,
          record ++ [⟨statement, (effect (session.execute statement) state).1⟩])) := rfl

/-- A response behind which a read does not go on. -/
def Response.isLast (response : Response) : Bool := response.exhausted || response.token.isNone

theorem Response.next_of_isLast {response : Response} (last : response.isLast = true) :
    response.next = .finished := by
  unfold isLast at last
  rw [next, last]
  rfl

theorem Response.next_of_not_isLast {response : Response} (more : response.isLast = false) :
    response.next = ⟨response.token, false⟩ := by
  unfold isLast at more
  rw [next, more]
  rfl

/-- How the conversation of a read ends. -/
inductive Ending where
  | complete
  | failed (cause : Failure)
  /-- The read has made as many calls as it may. -/
  | suspended (token : Option PagingToken)

/-- What is said in a read that starts with a token and may make so many calls. Every statement asks for what
follows the response before it. -/
inductive Conversation (ask : Option PagingToken → Statement P) :
    Nat → Option PagingToken → List (Exchange P) → Ending → Prop where
  | suspended (token : Option PagingToken) : Conversation ask 0 token [] (.suspended token)
  | failed (budget : Nat) (token : Option PagingToken) (cause : Failure) :
    Conversation ask (budget + 1) token [⟨ask token, .error cause⟩] (.failed cause)
  | complete (budget : Nat) (token : Option PagingToken) (response : Response) (last : response.isLast = true) :
    Conversation ask (budget + 1) token [⟨ask token, .ok response⟩] .complete
  | next {budget : Nat} (token : Option PagingToken) {response : Response} {rest : List (Exchange P)}
    {ending : Ending} (more : response.isLast = false)
    (later : Conversation ask budget response.token rest ending) :
    Conversation ask (budget + 1) token (⟨ask token, .ok response⟩ :: rest) ending

/-- The first statement of a conversation has the token that it starts with. -/
theorem Conversation.first {ask : Option PagingToken → Statement P} {budget : Nat} {token : Option PagingToken}
    {exchanges : List (Exchange P)} {ending : Ending}
    (conversation : Conversation ask (budget + 1) token exchanges ending) :
    ∃ answer rest, exchanges = ⟨ask token, answer⟩ :: rest := by
  cases conversation with
  | failed _ _ cause => exact ⟨_, _, rfl⟩
  | complete _ _ response last => exact ⟨_, _, rfl⟩
  | next _ more later => exact ⟨_, _, rfl⟩

/-- A conversation that fails ends with the cause of the failure. -/
theorem Conversation.last_of_failed {ask : Option PagingToken → Statement P} {budget : Nat}
    {token : Option PagingToken} {exchanges : List (Exchange P)} {cause : Failure}
    (conversation : Conversation ask budget token exchanges (.failed cause)) :
    ∃ statement, exchanges.getLast? = some ⟨statement, .error cause⟩ := by
  generalize ended : Ending.failed cause = ending at conversation
  induction conversation with
  | suspended token => cases ended
  | failed budget token other =>
    cases ended
    exact ⟨_, rfl⟩
  | complete budget token response last => cases ended
  | next token more later ih =>
    obtain ⟨statement, last⟩ := ih ended
    exact ⟨statement, by rw [List.getLast?_cons, last]; rfl⟩

namespace Executor

theorem exhausted_pageOf (executor : Executor σ P) (query : Query) {response : Response}
    (last : response.isLast = true) : (executor.pageOf query response).cursor.exhausted = true :=
  congrArg Cursor.exhausted (Response.next_of_isLast last)

theorem cursor_pageOf (executor : Executor σ P) (query : Query) {response : Response}
    (more : response.isLast = false) : (executor.pageOf query response).cursor = ⟨response.token, false⟩ :=
  Response.next_of_not_isLast more

/-- The same executor in another mode. -/
def inMode (executor : Executor σ P) (mode : PagingMode) : Executor σ P := { executor with mode := mode }

/-- The same executor over a session that is recorded. -/
def recorded (executor : Executor σ P) : Executor (σ × List (Exchange P)) P :=
  ⟨executor.session.recorded, executor.converter, executor.mode⟩

/-- What a read gives, told by what was said. -/
def outcome (executor : Executor σ P) (query : Query) (exchanges : List (Exchange P)) :
    Ending → Except Failure Page
  | .complete => .ok ⟨(exchanges.flatMap Exchange.read).map (executor.converter.entityOf · query.collection),
      .finished⟩
  | .failed cause => .error (executor.executionFailure query.collection cause)
  | .suspended token =>
    .ok ⟨(exchanges.flatMap Exchange.read).map (executor.converter.entityOf · query.collection), ⟨token, false⟩⟩

/-- The outcome of a conversation that starts with a response and goes on behind it. -/
theorem outcome_next (executor : Executor σ P) (query : Query) (exchange : Exchange P) {response : Response}
    (answered : exchange.answer = .ok response) (rest : List (Exchange P)) (ending : Ending) :
    executor.outcome query (exchange :: rest) ending =
      (executor.outcome query rest ending).map (executor.pageOf query response).followedBy := by
  have first : exchange.read = response.page := by rw [Exchange.read, answered]
  cases ending with
  | failed cause => rfl
  | complete =>
    simp only [outcome, List.flatMap_cons, List.map_append, first]
    rfl
  | suspended token =>
    simp only [outcome, List.flatMap_cons, List.map_append, first]
    rfl

/-- A walk over the pages of a query is one conversation, whether it is recorded or not. -/
theorem follow_converses (executor : Executor σ P) (query : Query) (predicate : Option P) (budget : Nat)
    (token : Option PagingToken) (state : σ) (record : List (Exchange P)) :
    ∃ exchanges ending after, Conversation (query.statement predicate) budget token exchanges ending ∧
      effect (follow (executor.nativePage query predicate) budget ⟨token, false⟩) state =
        (executor.outcome query exchanges ending, after) ∧
      effect (follow (executor.recorded.nativePage query predicate) budget ⟨token, false⟩) (state, record) =
        (executor.outcome query exchanges ending, (after, record ++ exchanges)) := by
  induction budget generalizing token state record with
  | zero =>
    refine ⟨[], .suspended token, state, .suspended token, rfl, ?_⟩
    rw [List.append_nil]
    rfl
  | succ budget ih =>
    have plain := executor.effect_nativePage query predicate ⟨token, false⟩ state
    have noted := executor.recorded.effect_nativePage query predicate ⟨token, false⟩ (state, record)
    have writes := executor.session.effect_recorded (query.statement predicate token) state record
    change effect (executor.recorded.session.execute (query.statement predicate token)) (state, record) = _ at writes
    rw [writes] at noted
    generalize effect (executor.session.execute (query.statement predicate token)) state = said at plain noted
    obtain ⟨answer, middle⟩ := said
    cases answer with
    | error cause =>
      exact ⟨_, _, middle, .failed budget token cause, effect_follow_failed plain budget,
        effect_follow_failed noted budget⟩
    | ok response =>
      cases last : response.isLast with
      | true =>
        have alone : executor.outcome query [⟨query.statement predicate token, .ok response⟩] .complete =
            .ok (executor.pageOf query response) := by
          rw [outcome, pageOf, Response.next_of_isLast last, List.flatMap_singleton]
          rfl
        have ends := executor.exhausted_pageOf query last
        refine ⟨_, _, middle, .complete budget token response last, ?_, ?_⟩
        · rw [alone]
          exact effect_follow_last plain ends budget
        · rw [alone]
          exact effect_follow_last noted ends budget
      | false =>
        have resumes := executor.cursor_pageOf query last
        have goesOn := congrArg Cursor.exhausted resumes
        obtain ⟨rest, ending, after, later, walked, wrote⟩ := ih response.token middle
          (record ++ [⟨query.statement predicate token, .ok response⟩])
        rw [← resumes] at walked wrote
        refine ⟨_, ending, after, .next token last later, ?_, ?_⟩
        · rw [effect_follow_more plain goesOn, walked, executor.outcome_next query _ rfl]
        · have same : executor.recorded.pageOf query response = executor.pageOf query response := rfl
          rw [effect_follow_more noted goesOn, same, wrote, executor.outcome_next query _ rfl, List.append_assoc]
          rfl

/-- A read of a query that passes its checks is one conversation, whether it is recorded or not. -/
theorem select_converses (executor : Executor σ P) {query : Query} {predicate : Option P}
    (accepted : executor.accepted query = .ok predicate) (budget : Nat) {cursor : Cursor}
    (more : cursor.exhausted = false) (state : σ) (record : List (Exchange P)) :
    ∃ fewer exchanges ending after,
      Conversation (query.statement predicate) (fewer + 1) cursor.token exchanges ending ∧
      effect (executor.select (budget + 1) query cursor) state = (executor.outcome query exchanges ending, after) ∧
      effect (executor.recorded.select (budget + 1) query cursor) (state, record) =
        (executor.outcome query exchanges ending, (after, record ++ exchanges)) := by
  have acceptedToo : executor.recorded.accepted query = .ok predicate := accepted
  obtain ⟨fewer, calls⟩ := executor.mode.calls_succ budget
  have callsToo : executor.recorded.mode.calls (budget + 1) = fewer + 1 := calls
  obtain ⟨exchanges, ending, after, conversation, walked, wrote⟩ :=
    executor.follow_converses query predicate (fewer + 1) cursor.token state record
  rw [Cursor.eq_of_more more] at walked wrote
  refine ⟨fewer, exchanges, ending, after, conversation, ?_, ?_⟩
  · rw [executor.effect_select_accepted accepted (budget + 1) more, calls, walked]
  · rw [executor.recorded.effect_select_accepted acceptedToo (budget + 1) more, callsToo, wrote]

end Executor

end Polystore
