import Polystore.Predicate.Transcript
import Polystore.Proofs.Executor.Conversations
import Polystore.Proofs.Executor.Walks
import Polystore.Session.Scripted

/-!
The two modes of reading agree. Reading all pages in one call, and reading one page after another from the cursor
of the page before, are the same walk over the pages of native calls: they say the same to a session, and give the
same.
-/
namespace Polystore

open Polystore.Action

variable {σ P : Type}

namespace Executor

theorem effect_drain_accepted (executor : Executor σ P) {query : Query} {predicate : Option P}
    (accepted : executor.accepted query = .ok predicate) (budget : Nat) {cursor : Cursor}
    (more : cursor.exhausted = false) (state : σ) :
    effect ((executor.inMode .drain).select budget query cursor) state =
      effect (follow (executor.nativePage query predicate) budget cursor) state :=
  (executor.inMode .drain).effect_select_accepted accepted budget more state

theorem effect_pages_accepted (executor : Executor σ P) {query : Query} {predicate : Option P}
    (accepted : executor.accepted query = .ok predicate) (budget reads : Nat) {cursor : Cursor}
    (more : cursor.exhausted = false) (state : σ) :
    effect (follow ((executor.inMode .pagingState).select budget query) reads cursor) state =
      effect (follow (executor.nativePage query predicate) reads cursor) state := by
  have walk := (executor.inMode .pagingState).effect_follow_select accepted budget reads more state
  rwa [show (executor.inMode .pagingState).mode.calls budget * reads = reads from Nat.one_mul reads] at walk

/-- A query that passes its checks is read in one conversation, the same in either mode, recorded or not. -/
theorem modes_converse (executor : Executor σ P) {query : Query} {predicate : Option P}
    (accepted : executor.accepted query = .ok predicate) (budget : Nat) {cursor : Cursor}
    (more : cursor.exhausted = false) (state : σ) :
    ∃ exchanges ending after, Conversation (query.statement predicate) (budget + 1) cursor.token exchanges ending ∧
      effect ((executor.inMode .drain).select (budget + 1) query cursor) state =
        (executor.outcome query exchanges ending, after) ∧
      effect (follow ((executor.inMode .pagingState).select (budget + 1) query) (budget + 1) cursor) state =
        (executor.outcome query exchanges ending, after) ∧
      effect ((executor.recorded.inMode .drain).select (budget + 1) query cursor) (state, []) =
        (executor.outcome query exchanges ending, (after, exchanges)) ∧
      effect (follow ((executor.recorded.inMode .pagingState).select (budget + 1) query) (budget + 1) cursor)
          (state, []) =
        (executor.outcome query exchanges ending, (after, exchanges)) := by
  have acceptedToo : executor.recorded.accepted query = .ok predicate := accepted
  obtain ⟨exchanges, ending, after, conversation, walked, wrote⟩ :=
    executor.follow_converses query predicate (budget + 1) cursor.token state []
  rw [Cursor.eq_of_more more] at walked wrote
  refine ⟨exchanges, ending, after, conversation, ?_, ?_, ?_, ?_⟩
  · exact (executor.effect_drain_accepted accepted _ more state).trans walked
  · exact (executor.effect_pages_accepted accepted _ _ more state).trans walked
  · exact (executor.recorded.effect_drain_accepted acceptedToo _ more (state, [])).trans wrote
  · exact (executor.recorded.effect_pages_accepted acceptedToo _ _ more (state, [])).trans wrote

/-- A read of all pages that has come to its end makes no more calls, however many it may make. -/
theorem effect_drain_settled (executor : Executor σ P) {query : Query} (budget : Nat) {cursor : Cursor}
    (more : cursor.exhausted = false) {state : σ}
    (settled : ∀ page, (effect ((executor.inMode .drain).select budget query cursor) state).1 = .ok page →
      page.cursor.exhausted = true) (further : Nat) :
    effect ((executor.inMode .drain).select (budget + further) query cursor) state =
      effect ((executor.inMode .drain).select budget query cursor) state := by
  cases accepted : executor.accepted query with
  | error failure =>
    rw [(executor.inMode .drain).effect_select_refused accepted _ more,
      (executor.inMode .drain).effect_select_refused accepted _ more]
  | ok predicate =>
    rw [executor.effect_drain_accepted accepted _ more] at settled
    rw [executor.effect_drain_accepted accepted _ more, executor.effect_drain_accepted accepted _ more]
    exact effect_follow_settled more settled further

/-- Reading all pages in one call and reading them one by one ask any session the same statements, and give the same
rows or the same failure. -/
theorem paging_modes_agree (executor : Executor σ P) (budget : Nat) (query : Query) {cursor : Cursor}
    (more : cursor.exhausted = false) (state : σ) :
    let drain (budget : Nat) := (executor.inMode .drain).select (budget + 1) query cursor
    let pages (budget : Nat) := follow ((executor.inMode .pagingState).select (budget + 1) query) (budget + 1) cursor
    let recordedDrain (budget : Nat) := (executor.recorded.inMode .drain).select (budget + 1) query cursor
    let recordedPages (budget : Nat) :=
      follow ((executor.recorded.inMode .pagingState).select (budget + 1) query) (budget + 1) cursor
    let drained := effect (recordedDrain budget) (state, [])
    let exchanges := drained.2.2
    effect (recordedPages budget) (state, []) = drained ∧
      effect (drain budget) state = (drained.1, drained.2.1) ∧
      effect (pages budget) state = (drained.1, drained.2.1) ∧
      (∀ failure, executor.accepted query = .error failure → drained = (.error failure, (state, []))) ∧
      (∀ predicate, executor.accepted query = .ok predicate → ∃ ending,
        Conversation (query.statement predicate) (budget + 1) cursor.token exchanges ending ∧
          drained.1 = executor.outcome query exchanges ending ∧
          ((∀ exchange ∈ exchanges, exchange.IsWhole) →
            exchanges.flatMap Exchange.read = exchanges.flatMap Exchange.buffered)) ∧
      ((∀ page, drained.1 = .ok page → page.cursor.exhausted = true) →
        ∀ further, effect (recordedDrain (budget + further)) (state, []) = drained) := by
  intro drain pages recordedDrain recordedPages drained exchanges
  have settles : (∀ page, drained.1 = .ok page → page.cursor.exhausted = true) →
      ∀ further, effect (recordedDrain (budget + further)) (state, []) = drained := by
    intro settled further
    have stops := executor.recorded.effect_drain_settled (budget + 1) more settled further
    rwa [Nat.add_right_comm] at stops
  cases accepted : executor.accepted query with
  | error failure =>
    have refused : executor.recorded.accepted query = .error failure := accepted
    have ended : drained = (.error failure, (state, [])) :=
      (executor.recorded.inMode .drain).effect_select_refused refused (budget + 1) more (state, [])
    have plain := (executor.inMode .drain).effect_select_refused accepted (budget + 1) more state
    have first := (executor.inMode .pagingState).effect_select_refused accepted (budget + 1) more state
    have noted := (executor.recorded.inMode .pagingState).effect_select_refused refused (budget + 1) more (state, [])
    refine ⟨?_, ?_, ?_, ?_, ?_, settles⟩
    · rw [ended]
      exact effect_follow_failed noted budget
    · rw [ended]
      exact plain
    · rw [ended]
      exact effect_follow_failed first budget
    · intro other same
      rw [ended, Except.error.inj same]
    · intro predicate same
      cases same
  | ok predicate =>
    obtain ⟨said, ending, after, conversation, drains, pages, drainsToo, pagesToo⟩ :=
      executor.modes_converse accepted budget more state
    have ended : drained = (executor.outcome query said ending, (after, said)) := drainsToo
    have wroteDown : exchanges = said := congrArg (fun ending => ending.2.2) ended
    refine ⟨pagesToo.trans drainsToo.symm, ?_, ?_, ?_, ?_, settles⟩
    · rw [ended]
      exact drains
    · rw [ended]
      exact pages
    · intro failure same
      cases same
    · intro other same
      cases same
      rw [ended, wroteDown]
      exact ⟨ending, conversation, rfl, Exchange.flatMap_read⟩

/-- A read that is resumed, goes on behind an empty page and stops at a page without a token, one page at a time. -/
theorem paging_modes_agree_behind_empty_page :
    let token (byte : UInt8) : PagingToken := ⟨[byte]⟩
    let row (text : String) : Row := [⟨"n", .scalar (.text text)⟩]
    let answers : List (Except Failure Response) :=
      [.ok ⟨[row "a", row "b"], none, some (token 1), false⟩, .ok ⟨[], none, some (token 2), false⟩,
        .ok ⟨[row "c"], none, none, false⟩, .error (.ofNote "not asked")]
    let executor : Executor (Scripted.Script String) String :=
      ⟨Scripted.session (Transcript.builder "b" .full none), {}, .pagingState⟩
    let query : Query := { collection := "c", condition := some (.leaf .equals ⟨"n", .null⟩) }
    let cursor : Cursor := ⟨some (token 9), false⟩
    let pages := follow ((executor.recorded.inMode .pagingState).select 4 query) 4 cursor
    let paged := effect pages (⟨answers, []⟩, [])
    paged.1 = .ok ⟨["a", "b", "c"].map fun text => ⟨"c", [⟨"n", .text text⟩]⟩, .finished⟩ ∧
      paged.2.2.map (·.statement.token) = [some (token 9), some (token 1), some (token 2)] := by
  intro token row answers executor query cursor pages paged
  have more : cursor.exhausted = false := rfl
  obtain ⟨same, _⟩ := executor.paging_modes_agree 3 query more ⟨answers, []⟩
  have drained : paged = effect ((executor.recorded.inMode .drain).select 4 query cursor) (⟨answers, []⟩, []) := same
  rw [drained]
  simp only [token, row, answers, executor, query, cursor]
  exact ⟨rfl, rfl⟩

end Executor

end Polystore
