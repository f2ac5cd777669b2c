import Mathlib.Logic.Function.Basic
import Polystore.Predicate.Transcript
import Polystore.Proofs.Executor.Patience

/-!
Reads that are repeated when they fail. A client keeps its cursor when a read fails and reads again from there, else
it goes on with the cursor that it got. It reads what it would have read had nothing failed, whichever calls failed:
a failed read gives no entities and moves no cursor. A read of one page gets through whenever no statement is refused
for ever; a read of all pages at once drops what it has read when it fails, and needs a run without a failure.
-/
namespace Polystore

open Polystore.Action

variable {ε σ P : Type}

/-- Reads page after page, and again from the same cursor when a read fails, with at most so many reads. -/
def persist (read : Cursor → Action ε σ Page) : Nat → Cursor → Action ε σ Page
  | 0, cursor => pure (.empty cursor)
  | reads + 1, cursor => do
    match ← ((read cursor).attempt : Action ε σ (Except ε Page)) with
    | .error _ => persist read reads cursor
    | .ok page =>
      if page.cursor.exhausted then return page
      let rest ← persist read reads page.cursor
      return page.followedBy rest

theorem effect_persist_failed {read : Cursor → Action ε σ Page} {cursor : Cursor} {state after : σ}
    (fails : (read cursor).Fails state after) (reads : Nat) :
    effect (persist read (reads + 1) cursor) state = effect (persist read reads cursor) after := by
  obtain ⟨failure, failed⟩ := fails
  simp only [persist, effect_bind, effect_attempt, failed]

theorem effect_persist_last {read : Cursor → Action ε σ Page} {cursor : Cursor} {page : Page} {state after : σ}
    (gives : effect (read cursor) state = (.ok page, after)) (last : page.cursor.exhausted = true) (reads : Nat) :
    effect (persist read (reads + 1) cursor) state = (.ok page, after) := by
  simp only [persist, effect_bind, effect_attempt, gives, last, if_true, effect_pure]

theorem effect_persist_more {read : Cursor → Action ε σ Page} {cursor : Cursor} {page rest : Page}
    {state middle after : σ} {reads : Nat} (gives : effect (read cursor) state = (.ok page, middle))
    (more : page.cursor.exhausted = false)
    (others : effect (persist read reads page.cursor) middle = (.ok rest, after)) :
    effect (persist read (reads + 1) cursor) state = (.ok (page.followedBy rest), after) := by
  simp only [persist, effect_bind, effect_attempt, gives, more, Bool.false_eq_true, if_false, others, effect_pure]

/-- Some failed reads in a row leave the client at its cursor. -/
theorem effect_persist_again {read : Cursor → Action ε σ Page} {cursor : Cursor} {state later : σ}
    (fails : Relation.ReflTransGen (read cursor).Fails state later) :
    ∃ failures, ∀ reads,
      effect (persist read (failures + reads) cursor) state = effect (persist read reads cursor) later := by
  induction fails using Relation.ReflTransGen.head_induction_on with
  | refl => exact ⟨0, fun reads => by rw [Nat.zero_add]⟩
  | head first _ ih =>
    obtain ⟨failures, same⟩ := ih
    refine ⟨failures + 1, fun reads => ?_⟩
    rw [Nat.succ_add, effect_persist_failed first, same]

/-- A client of which every read fails stays at its cursor. -/
theorem effect_persist_stays {read : Cursor → Action ε σ Page} {cursor : Cursor}
    (fails : ∀ state, ∃ after, (read cursor).Fails state after) (tries : Nat) (state : σ) :
    ∃ after, effect (persist read tries cursor) state = (.ok (.empty cursor), after) := by
  induction tries generalizing state with
  | zero => exact ⟨state, rfl⟩
  | succ tries ih =>
    obtain ⟨middle, failed⟩ := fails state
    obtain ⟨after, others⟩ := ih middle
    exact ⟨after, (effect_persist_failed failed tries).trans others⟩

/-- A client whose read gets through to the last page has read it. -/
theorem effect_persist_through {read : Cursor → Action ε σ Page} {cursor : Cursor} {page : Page} {state : σ}
    (through : (read cursor).GetsThrough page state) (last : page.cursor.exhausted = true) :
    ∃ enough, ∀ further, ∃ after, effect (persist read (enough + further) cursor) state = (.ok page, after) := by
  obtain ⟨between, after, fails, gives⟩ := through
  obtain ⟨failures, again⟩ := effect_persist_again fails
  refine ⟨failures + 1, fun further => ⟨after, ?_⟩⟩
  rw [Nat.add_assoc, again, Nat.add_comm 1]
  exact effect_persist_last gives last further

/-- If a read gives one page only, the last, then its client has read nothing or that page, which got through. -/
theorem effect_persist_all_or_nothing {read : Cursor → Action ε σ Page} {cursor : Cursor} {page : Page}
    (only : ∀ state given after, effect (read cursor) state = (.ok given, after) → given = page)
    (last : page.cursor.exhausted = true) (tries : Nat) (state : σ) :
    ∃ given after, effect (persist read tries cursor) state = (.ok given, after) ∧
      (given = .empty cursor ∨ given = page ∧ (read cursor).GetsThrough page state) := by
  induction tries generalizing state with
  | zero => exact ⟨_, state, rfl, Or.inl rfl⟩
  | succ tries ih =>
    cases first : effect (read cursor) state with
    | mk result middle =>
      cases result with
      | error failure =>
        have fails : (read cursor).Fails state middle := ⟨failure, first⟩
        obtain ⟨given, after, others, outcome⟩ := ih middle
        refine ⟨given, after, (effect_persist_failed fails tries).trans others, ?_⟩
        exact outcome.imp_right fun ⟨same, through⟩ => ⟨same, through.again (.single fails)⟩
      | ok given =>
        have same := only state given middle first
        subst same
        exact ⟨given, middle, effect_persist_last first last tries, Or.inr ⟨rfl, state, middle, .refl, first⟩⟩

/-- A client of such a read has read nothing or all at any time, and all in the end just when the read gets through. -/
theorem persist_ends_iff {read : Cursor → Action ε σ Page} {cursor : Cursor} {page : Page}
    (only : ∀ state given after, effect (read cursor) state = (.ok given, after) → given = page)
    (more : cursor.exhausted = false) (last : page.cursor.exhausted = true) (state : σ) :
    (∀ tries, (effect (persist read tries cursor) state).1 = .ok page ∨
        (effect (persist read tries cursor) state).1 = .ok (.empty cursor)) ∧
      ((∃ tries, (effect (persist read tries cursor) state).1 = .ok page) ↔
        (read cursor).GetsThrough page state) := by
  have outcome (tries : Nat) := effect_persist_all_or_nothing only last tries state
  refine ⟨fun tries => ?_, fun ⟨tries, ended⟩ => ?_, fun through => ?_⟩
  · obtain ⟨given, after, gives, nothing | ⟨all, _⟩⟩ := outcome tries
    · exact Or.inr (nothing ▸ congrArg Prod.fst gives)
    · exact Or.inl (all ▸ congrArg Prod.fst gives)
  · obtain ⟨given, after, gives, nothing | ⟨_, through⟩⟩ := outcome tries
    · have same : page = given := Except.ok.inj (ended.symm.trans (congrArg Prod.fst gives))
      rw [same, nothing] at last
      exact absurd (more.symm.trans last) (by decide)
    · exact through
  · obtain ⟨enough, gives⟩ := effect_persist_through through last
    obtain ⟨after, gives⟩ := gives 0
    exact ⟨enough, congrArg Prod.fst gives⟩

namespace Executor

section

variable {executor : Executor σ P} {query : Query} {answers : Option PagingToken → Response} {predicate : Option P}

/-- Nothing in the way of a read is refused for ever. A read of one page makes one call; a read of all pages starts
again at its first token whenever it fails. -/
def Endures (executor : Executor σ P) : Prop :=
  executor.mode = .pagingState ∧ executor.session.Recovers ∨ executor.session.Patient

/-- A read that is made again whenever it fails gets through. -/
theorem select_gets_through (truthful : executor.session.Answers answers) (endures : executor.Endures)
    (accepted : executor.accepted query = .ok predicate) (budget : Nat) {count : Nat} {cursor : Cursor}
    (more : cursor.exhausted = false) (ends : EndsIn answers count cursor.token) (state : σ) :
    (executor.select budget query cursor).GetsThrough
      (executor.walked query answers (executor.mode.calls budget) cursor) state := by
  have walks (state : σ) := (executor.effect_select_accepted accepted budget more state).symm
  rcases endures with ⟨mode, recovers⟩ | patient
  · have one : executor.mode.calls budget = 1 := by rw [mode]; rfl
    have page := page_gets_through truthful recovers query predicate cursor state
    rw [one] at walks ⊢
    rw [walked_one]
    exact page.congr fun state => (effect_follow_one _ cursor state).symm.trans (walks state)
  · exact (follow_gets_through truthful patient query predicate more ends _ state).congr walks

/-- A read that gives a page gives that of the walk in which nothing fails. -/
theorem select_truthful (truthful : executor.session.Answers answers)
    (accepted : executor.accepted query = .ok predicate) {budget : Nat} {cursor : Cursor}
    (more : cursor.exhausted = false) {state after : σ} {page : Page}
    (gives : effect (executor.select budget query cursor) state = (.ok page, after)) :
    page = executor.walked query answers (executor.mode.calls budget) cursor := by
  rw [executor.effect_select_accepted accepted budget more] at gives
  exact follow_truthful truthful gives

/-- A client that does not give up reads all. -/
theorem persist_reads_all (truthful : executor.session.Answers answers) (endures : executor.Endures)
    (accepted : executor.accepted query = .ok predicate) (budget reads : Nat) {cursor : Cursor}
    (more : cursor.exhausted = false)
    (ended : (executor.walked query answers (executor.mode.calls budget * reads) cursor).cursor.exhausted = true)
    (state : σ) :
    ∃ enough, ∀ further, ∃ after, effect (persist (executor.select budget query) (enough + further) cursor) state =
      (.ok (executor.walked query answers (executor.mode.calls budget * reads) cursor), after) := by
  induction reads generalizing cursor state with
  | zero => exact absurd (more.symm.trans ended) (by decide)
  | succ reads ih =>
    obtain ⟨count, ends⟩ := endsIn_of_walked more ended
    have through := select_gets_through truthful endures accepted budget more ends state
    rw [Nat.mul_succ, Nat.add_comm (_ * reads), walked_add _ _ _ _ _ more] at ended ⊢
    cases last : (executor.walked query answers (executor.mode.calls budget) cursor).cursor.exhausted with
    | true =>
      simp only [last, if_true]
      exact effect_persist_through through last
    | false =>
      simp only [last, Bool.false_eq_true, if_false] at ended ⊢
      obtain ⟨between, middle, fails, gives⟩ := through
      obtain ⟨failures, again⟩ := effect_persist_again fails
      obtain ⟨enough, others⟩ := ih last ended middle
      refine ⟨failures + (enough + 1), fun further => ?_⟩
      obtain ⟨after, rest⟩ := others further
      refine ⟨after, ?_⟩
      rw [Nat.add_assoc, again, Nat.add_right_comm]
      exact effect_persist_more gives last rest

/-- Whatever fails, and however often, what a client has read is the first part of what there is to read, and all of it
once its cursor is exhausted. -/
theorem persist_reads_first (truthful : executor.session.Answers answers)
    (accepted : executor.accepted query = .ok predicate) (budget : Nat) {reads : Nat} {cursor : Cursor}
    (more : cursor.exhausted = false)
    (ended : (executor.walked query answers (executor.mode.calls budget * reads) cursor).cursor.exhausted = true)
    (tries : Nat) (state : σ) :
    ∃ read after, effect (persist (executor.select budget query) tries cursor) state = (.ok read, after) ∧
      read.entities <+: (executor.walked query answers (executor.mode.calls budget * reads) cursor).entities ∧
      (read.cursor.exhausted = true →
        read = executor.walked query answers (executor.mode.calls budget * reads) cursor) := by
  induction tries generalizing reads cursor state with
  | zero =>
    refine ⟨.empty cursor, state, rfl, List.nil_prefix, fun last => ?_⟩
    exact absurd (more.symm.trans last) (by decide)
  | succ tries ih =>
    cases first : effect (executor.select budget query cursor) state with
    | mk result middle =>
      cases result with
      | error failure =>
        obtain ⟨read, after, others, part⟩ := ih more ended middle
        exact ⟨read, after, (effect_persist_failed ⟨failure, first⟩ tries).trans others, part⟩
      | ok page =>
        have same := select_truthful truthful accepted more first
        cases reads with
        | zero => exact absurd (more.symm.trans ended) (by decide)
        | succ reads =>
          rw [Nat.mul_succ, Nat.add_comm (_ * reads), walked_add _ _ _ _ _ more, ← same] at ended ⊢
          cases last : page.cursor.exhausted with
          | true =>
            simp only [last, if_true]
            exact ⟨page, middle, effect_persist_last first last tries, List.prefix_refl _, fun _ => rfl⟩
          | false =>
            simp only [last, Bool.false_eq_true, if_false] at ended ⊢
            obtain ⟨rest, after, others, part, whole⟩ := ih last ended middle
            refine ⟨page.followedBy rest, after, effect_persist_more first last others, ?_, ?_⟩
            · exact (List.prefix_append_right_inj page.entities).mpr part
            · exact fun atEnd => congrArg page.followedBy (whole atEnd)

end

/-- The failure of a native call is one of execution, and the cause stays in its chain. -/
theorem executionFailure_keeps (executor : Executor σ P) (collection : String) (cause : Failure) :
    (executor.executionFailure collection cause).fault? =
        some (.execution executor.session.builder.name cause.text) ∧
      cause.causes <:+ (executor.executionFailure collection cause).causes := by
  constructor
  · rw [executionFailure, Failure.fault?_during, Failure.fault?_under]
  · exact ⟨[_, _], rfl⟩

/-- What a read of a query that passes its checks says to the session: it starts with the token of the cursor, and
if it fails it fails with the last answer. -/
theorem select_starts_at_cursor {executor : Executor σ P} {query : Query} {predicate : Option P}
    (accepted : executor.accepted query = .ok predicate) (budget : Nat) {cursor : Cursor}
    (more : cursor.exhausted = false) (state : σ) :
    let read := effect (executor.select (budget + 1) query cursor) state
    ∃ exchanges, effect (executor.recorded.select (budget + 1) query cursor) (state, []) =
        (read.1, (read.2, exchanges)) ∧
      exchanges.head?.map Exchange.statement = some (query.statement predicate cursor.token) ∧
      ∀ failure, read.1 = .error failure → ∃ cause, failure = executor.executionFailure query.collection cause ∧
        exchanges.getLast?.map Exchange.answer = some (.error cause) := by
  intro read
  obtain ⟨fewer, exchanges, ending, after, conversation, walked, wrote⟩ :=
    executor.select_converses accepted budget more state []
  have gave : read = (executor.outcome query exchanges ending, after) := walked
  rw [wrote, gave]
  refine ⟨exchanges, rfl, ?_, ?_⟩
  · obtain ⟨answer, rest, starts⟩ := conversation.first
    rw [starts]
    rfl
  · intro failure failed
    cases ending with
    | complete => cases failed
    | suspended token => cases failed
    | failed cause =>
      obtain ⟨statement, last⟩ := conversation.last_of_failed
      exact ⟨cause, (Except.error.inj failed).symm, by rw [last]; rfl⟩

/-- A client that reads again from its cursor whenever a read fails reads every row once: at any time the first of
what a failure-free read gives, and all of it once it ends, as it does if nothing in its way is refused for ever. -/
theorem retries_give_each_row_once (executor : Executor σ P) (answers : Option PagingToken → Response)
    (truthful : executor.session.Answers answers) (budget : Nat) {query : Query} {predicate : Option P}
    (accepted : executor.accepted query = .ok predicate) {cursor : Cursor} (more : cursor.exhausted = false)
    {reads : Nat} {page : Page}
    (finite : effect (follow ((executor.reliable answers).select (budget + 1) query) reads cursor) () = (.ok page, ()))
    (ended : page.cursor.exhausted = true) (state : σ) :
    let client (tries : Nat) := effect (persist (executor.select (budget + 1) query) tries cursor) state
    (executor.Endures → ∃ enough, ∀ further, (client (enough + further)).1 = .ok page) ∧
      (∀ tries, ∃ read, (client tries).1 = .ok read ∧ read.entities <+: page.entities ∧
        (read.cursor.exhausted = true → read = page)) ∧
      -- One read takes all pages when it takes them at once.
      (reads = 1 →
        (∀ tries, (client tries).1 = .ok page ∨ (client tries).1 = .ok (.empty cursor)) ∧
          ((∃ tries, (client tries).1 = .ok page) ↔
            (executor.select (budget + 1) query cursor).GetsThrough page state)) ∧
      ∀ (held : Cursor) (now : σ), held.exhausted = false →
        let read := effect (executor.select (budget + 1) query held) now
        ∃ exchanges,
          effect (executor.recorded.select (budget + 1) query held) (now, []) = (read.1, (read.2, exchanges)) ∧
            exchanges.head?.map Exchange.statement = some (query.statement predicate held.token) ∧
            ∀ failure, read.1 = .error failure → ∃ cause,
              exchanges.getLast?.map Exchange.answer = some (.error cause) ∧
                failure.fault? = some (.execution executor.session.builder.name cause.text) ∧
                cause.causes <:+ failure.causes := by
  intro client
  have acceptedToo : (executor.reliable answers).accepted query = .ok predicate := accepted
  have calls : (executor.reliable answers).mode = executor.mode := rfl
  rw [(executor.reliable answers).effect_follow_select acceptedToo _ _ more, effect_follow_reliable, calls] at finite
  have whole : executor.walked query answers (executor.mode.calls (budget + 1) * reads) cursor = page :=
    Except.ok.inj (congrArg Prod.fst finite)
  refine ⟨?_, ?_, ?_, ?_⟩
  · intro endures
    obtain ⟨enough, gives⟩ := persist_reads_all truthful endures accepted (budget + 1) reads more (whole ▸ ended) state
    refine ⟨enough, fun further => ?_⟩
    obtain ⟨after, gives⟩ := gives further
    rw [← whole]
    exact congrArg Prod.fst gives
  · intro tries
    obtain ⟨read, after, gives, part, last⟩ :=
      persist_reads_first truthful accepted (budget + 1) more (whole ▸ ended) tries state
    exact ⟨read, congrArg Prod.fst gives, whole ▸ part, fun atEnd => whole ▸ last atEnd⟩
  · intro one
    rw [one, Nat.mul_one] at whole
    have only (now : σ) (given : Page) (after : σ)
        (gives : effect (executor.select (budget + 1) query cursor) now = (.ok given, after)) : given = page :=
      (select_truthful truthful accepted more gives).trans whole
    exact persist_ends_iff only more ended state
  · intro held now goesOn read
    obtain ⟨exchanges, wrote, starts, fails⟩ := select_starts_at_cursor accepted budget goesOn now
    refine ⟨exchanges, wrote, starts, ?_⟩
    intro failure failed
    obtain ⟨cause, same, last⟩ := fails failure failed
    obtain ⟨kind, kept⟩ := executor.executionFailure_keeps query.collection cause
    exact ⟨cause, last, same ▸ kind, same ▸ kept⟩

end Executor

namespace Session

/-- A session that refuses each token so often before each answer. Its state counts the refusals that are left. -/
def hesitant (builder : PredicateBuilder P) (answers : Option PagingToken → Response) (often : Nat) :
    Session (Option PagingToken → Nat) P where
  builder := builder
  execute statement := fun left =>
    match left statement.token with
    | 0 => ⟨.ok (answers statement.token), Function.update left statement.token often, []⟩
    | fewer + 1 => ⟨.error (.ofNote "not yet"), Function.update left statement.token fewer, []⟩

theorem answers_hesitant (builder : PredicateBuilder P) (answers : Option PagingToken → Response) (often : Nat) :
    (hesitant builder answers often).Answers answers := by
  intro statement left response gives
  cases counted : left statement.token with
  | zero =>
    simp only [effect, hesitant, counted] at gives
    exact (Except.ok.inj gives).symm
  | succ fewer =>
    simp only [effect, hesitant, counted] at gives
    cases gives

theorem patient_hesitant (builder : PredicateBuilder P) (answers : Option PagingToken → Response) (often : Nat) :
    (hesitant builder answers often).Patient := by
  intro token
  have spares (before after : Option PagingToken → Nat)
      (steps : Relation.ReflTransGen ((hesitant builder answers often).Spares token) before after) :
      after token = before token := by
    induction steps with
    | refl => rfl
    | tail _ step ih =>
      obtain ⟨statement, apart, rfl⟩ := step
      rw [← ih]
      simp only [effect, hesitant]
      split <;> exact Function.update_of_ne apart.symm _ _
  have fewer : Subrelation (fun after before => (hesitant builder answers often).Refuses token before after)
      (measure fun left : Option PagingToken → Nat => left token).rel := by
    intro after before refuses
    obtain ⟨between, steps, statement, cause, rfl, refused⟩ := refuses
    change after statement.token < before statement.token
    rw [← spares before between steps]
    cases counted : between statement.token with
    | zero =>
      simp only [effect, hesitant, counted] at refused
      cases refused
    | succ fewer =>
      simp only [effect, hesitant, counted] at refused
      obtain ⟨_, rfl⟩ := Prod.mk.inj refused
      rw [Function.update_self]
      exact Nat.lt_succ_self fewer
  exact fewer.wf (measure _).wf

/-- A session that refuses every other statement. Its state says whether it refuses the next one. -/
def faltering (builder : PredicateBuilder P) (answers : Option PagingToken → Response) : Session Bool P where
  builder := builder
  execute statement := fun refuses =>
    if refuses then ⟨.error (.ofNote "not yet"), false, []⟩ else ⟨.ok (answers statement.token), true, []⟩

theorem effect_faltering (builder : PredicateBuilder P) (answers : Option PagingToken → Response)
    (statement : Statement P) (refuses : Bool) :
    effect ((faltering builder answers).execute statement) refuses =
      if refuses then (.error (.ofNote "not yet"), false) else (.ok (answers statement.token), true) := by
  cases refuses <;> rfl

theorem answers_faltering (builder : PredicateBuilder P) (answers : Option PagingToken → Response) :
    (faltering builder answers).Answers answers := by
  intro statement refuses response gives
  rw [effect_faltering] at gives
  cases refuses <;> cases gives
  rfl

theorem recovers_faltering (builder : PredicateBuilder P) (answers : Option PagingToken → Response) :
    (faltering builder answers).Recovers := by
  intro statement
  have once : Subrelation (fun after before => ((faltering builder answers).execute statement).Fails before after)
      (measure Bool.toNat).rel := by
    intro after before fails
    obtain ⟨failure, failed⟩ := fails
    rw [effect_faltering] at failed
    cases before <;> cases failed
    exact Nat.zero_lt_one
  exact once.wf (measure Bool.toNat).wf

end Session

namespace Executor

/-- A read of all pages fails over a session that refuses every other statement, unless there is one page only. -/
theorem select_faltering {builder : PredicateBuilder P} {answers : Option PagingToken → Response}
    {executor : Executor Bool P} (session : executor.session = .faltering builder answers)
    (mode : executor.mode = .drain) {query : Query} {predicate : Option P}
    (accepted : executor.accepted query = .ok predicate) (budget : Nat) {cursor : Cursor}
    (more : cursor.exhausted = false) (further : (answers cursor.token).isLast = false) (refuses : Bool) :
    (executor.select (budget + 2) query cursor).Fails refuses false := by
  let failure := executor.executionFailure query.collection (.ofNote "not yet")
  have refused (cursor : Cursor) :
      effect (executor.nativePage query predicate cursor) true = (.error failure, false) := by
    rw [executor.effect_nativePage, session]
    rfl
  have answered : effect (executor.nativePage query predicate cursor) false =
      (.ok (executor.pageOf query (answers cursor.token)), true) := by
    rw [executor.effect_nativePage, session]
    rfl
  have calls : executor.mode.calls (budget + 2) = budget + 2 := by rw [mode]; rfl
  refine ⟨failure, ?_⟩
  rw [executor.effect_select_accepted accepted _ more, calls]
  cases refuses with
  | true => exact effect_follow_failed (refused cursor) (budget + 1)
  | false =>
    have resumes := executor.cursor_pageOf query further
    rw [effect_follow_more answered (congrArg Cursor.exhausted resumes), effect_follow_failed (refused _) budget]
    rfl

/-- A session that refuses no statement twice in a row keeps a client from ever reading two pages at once: the second is
refused whenever the first is read, and the next read starts with the first again. -/
theorem retries_at_once_never_end :
    let row (text : String) : Row := [⟨"n", .scalar (.text text)⟩]
    let second : PagingToken := ⟨[1]⟩
    let answers (token : Option PagingToken) : Response :=
      if token = some second then ⟨[row "b"], none, none, true⟩ else ⟨[row "a"], none, some second, false⟩
    let executor : Executor Bool String := ⟨.faltering (Transcript.builder "b" .full none) answers, {}, .drain⟩
    let query : Query := { collection := "c" }
    executor.session.Answers answers ∧ executor.session.Recovers ∧
      ∀ budget,
        effect ((executor.reliable answers).select (budget + 2) query .start) () =
          (.ok ⟨["a", "b"].map fun text => ⟨"c", [⟨"n", .text text⟩]⟩, .finished⟩, ()) ∧
        ∀ tries, (effect (persist (executor.select (budget + 2) query) tries .start) true).1 =
          .ok (.empty .start) := by
  intro row second answers executor query
  refine ⟨Session.answers_faltering _ answers, Session.recovers_faltering _ answers, fun budget => ⟨?_, ?_⟩⟩
  · simp only [row, second, answers, executor, query]
    rfl
  · intro tries
    have accepted : executor.accepted query = .ok none := by
      simp only [executor, query]
      rfl
    have further : (answers Cursor.start.token).isLast = false := rfl
    have fails := select_faltering rfl rfl accepted budget rfl further
    obtain ⟨after, stays⟩ := effect_persist_stays (fun refuses => ⟨false, fails refuses⟩) tries true
    exact congrArg Prod.fst stays

/-- Two pages are read in one call over a session that refuses each of them twice before each answer, and in two calls
over one that refuses every other statement. -/
theorem retries_read_two_pages :
    let row (text : String) : Row := [⟨"n", .scalar (.text text)⟩]
    let second : PagingToken := ⟨[1]⟩
    let answers (token : Option PagingToken) : Response :=
      if token = some second then ⟨[row "b"], none, none, true⟩ else ⟨[row "a"], none, some second, false⟩
    let builder := Transcript.builder "b" .full none
    let atOnce : Executor (Option PagingToken → Nat) String := ⟨.hesitant builder answers 2, {}, .drain⟩
    let byPages : Executor Bool String := ⟨.faltering builder answers, {}, .pagingState⟩
    let query : Query := { collection := "c" }
    let page : Page := ⟨["a", "b"].map fun text => ⟨"c", [⟨"n", .text text⟩]⟩, .finished⟩
    (∃ enough, (effect (persist (atOnce.select 5 query) enough .start) fun _ => 2).1 = .ok page) ∧
      ∃ enough, (effect (persist (byPages.select 5 query) enough .start) true).1 = .ok page := by
  intro row second answers builder atOnce byPages query page
  have more : Cursor.start.exhausted = false := rfl
  constructor
  · have truthful : atOnce.session.Answers answers := Session.answers_hesitant _ answers 2
    have patient : atOnce.session.Patient := Session.patient_hesitant _ answers 2
    have accepted : atOnce.accepted query = .ok none := by
      simp only [atOnce, builder, query]
      rfl
    have finite : effect (follow ((atOnce.reliable answers).select 5 query) 1 .start) () = (.ok page, ()) := by
      simp only [row, second, answers, builder, atOnce, query, page]
      rfl
    obtain ⟨ends, _⟩ := atOnce.retries_give_each_row_once answers truthful 4 accepted more finite rfl fun _ => 2
    obtain ⟨enough, gives⟩ := ends (Or.inr patient)
    exact ⟨enough, gives 0⟩
  · have truthful : byPages.session.Answers answers := Session.answers_faltering _ answers
    have recovers : byPages.session.Recovers := Session.recovers_faltering _ answers
    have accepted : byPages.accepted query = .ok none := by
      simp only [byPages, builder, query]
      rfl
    have finite : effect (follow ((byPages.reliable answers).select 5 query) 2 .start) () = (.ok page, ()) := by
      simp only [row, second, answers, builder, byPages, query, page]
      rfl
    obtain ⟨ends, _⟩ := byPages.retries_give_each_row_once answers truthful 4 accepted more finite rfl true
    obtain ⟨enough, gives⟩ := ends (Or.inl ⟨rfl, recovers⟩)
    exact ⟨enough, gives 0⟩

end Executor

end Polystore
