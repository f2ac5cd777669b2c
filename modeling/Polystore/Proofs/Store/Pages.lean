import Polystore.Proofs.Executor.Reads
import Polystore.Proofs.Sorting
import Polystore.Proofs.Store.Live
import Polystore.Proofs.Store.Tokens

/-!
What a read of a store gives. The live rows that a predicate picks are arranged into one list, and every read
gives a piece of that list: a page of it from the offset of the cursor on, or all of it from there. Reading
leaves the store as it is, so that pages read one after another are the pieces of one list, end to end.
-/
namespace Polystore.Store

open Polystore.Action

/-- The page of a list from an offset on, with the cursor of the next page. -/
def pageFrom (all : List Entity) (offset size : Nat) : Page :=
  let stop := min (offset + size) all.length
  ⟨(all.take stop).drop offset, if stop < all.length then ⟨some (tokenOf stop), false⟩ else .finished⟩

private theorem page_append_rest {α : Type} (all : List α) {offset stop : Nat} (order : offset ≤ stop) :
    (all.take stop).drop offset ++ all.drop stop = all.drop offset := by
  have rest : all.drop stop = (all.drop offset).drop (stop - offset) := by
    rw [List.drop_drop, Nat.add_sub_cancel' order]
  rw [List.drop_take, rest, List.take_append_drop]

/-- A walk over the pages of one list reads the list from its offset on, whatever passes in between, if it
does not change the pages. The offset grows with every page, so that it reaches the end. -/
theorem follow_pages {σ : Type} {read : Cursor → Action Failure σ Page} {unchanged : σ → Prop}
    {all : List Entity} {size : Nat} (positive : 0 < size) (counted : all.length ≤ wordMax)
    (pages : ∀ state token offset, unchanged state → startOf token = .ok offset →
      ∃ after, effect (read ⟨token, false⟩) state = (.ok (pageFrom all offset size), after) ∧ unchanged after)
    {budget : Nat} {state : σ} {token : Option PagingToken} {offset : Nat} (same : unchanged state)
    (start : startOf token = .ok offset) (enough : all.length - offset < budget) :
    ∃ after, effect (follow read budget ⟨token, false⟩) state = (.ok ⟨all.drop offset, .finished⟩, after) ∧
      unchanged after := by
  induction budget generalizing state token offset with
  | zero => omega
  | succ budget ih =>
    obtain ⟨middle, first, still⟩ := pages state token offset same start
    by_cases more : offset + size < all.length
    · have stop : min (offset + size) all.length = offset + size := by omega
      have page : pageFrom all offset size =
          ⟨(all.take (offset + size)).drop offset, ⟨some (tokenOf (offset + size)), false⟩⟩ := by
        simp [pageFrom, stop, more]
      rw [page] at first
      have next : startOf (some (tokenOf (offset + size))) = .ok (offset + size) := startOf_tokenOf (by omega)
      obtain ⟨after, rest, last⟩ := ih still next (by omega)
      refine ⟨after, ?_, last⟩
      rw [effect_follow_next first rfl rest, page_append_rest all (Nat.le_add_right offset size)]
    · have page : pageFrom all offset size = ⟨all.drop offset, .finished⟩ := by
        have stop : min (offset + size) all.length = all.length := by omega
        simp [pageFrom, stop]
      rw [page] at first
      exact ⟨middle, effect_follow_last first rfl budget, still⟩

namespace Service

/-- The predicate of a condition that may be absent. -/
def predicateFor (service : Service) (condition : Option Condition) : Except Failure (Option Predicate) :=
  service.builder.predicateFor condition

/-- All that a query reads among live rows. -/
def reading (service : Service) (query : Query) (predicate : Option Predicate) (rows : List StoredRow) :
    List Entity :=
  (service.arrange (query.statement predicate none) ((service.picked predicate rows).map service.view)).map
    fun row => service.converter.entityOf row query.collection

/-- How many entities make a page of a query. -/
def rowsPerPage (service : Service) (query : Query) : Nat :=
  max 1 (query.fetchSize.getD service.settings.fetchSize)

/-- The failure of a read for a cause that the session gives. -/
def readFailure (service : Service) (query : Query) (cause : Failure) : Failure :=
  service.executor.executionFailure query.collection cause

/-- The offset from which a token lets a store read, which must be open. -/
def located (service : Service) (query : Query) (isClosed : Bool) (token : Option PagingToken) :
    Except Failure Nat :=
  if isClosed then .error (service.readFailure query (.ofNote service.closedText))
  else (startOf token).mapError (service.readFailure query)

/-- What one read gives of a list from an offset on: a page of it, or all of it. -/
def piece (service : Service) (query : Query) (all : List Entity) (offset : Nat) : Page :=
  match service.settings.paging with
  | .pagingState => pageFrom all offset (service.rowsPerPage query)
  | .drain => ⟨all.drop offset, .finished⟩

/-- What a read behind a cursor gives, of a store that is closed or not and has these live rows. -/
def reads (service : Service) (query : Query) (cursor : Cursor) (isClosed : Bool) (rows : List StoredRow) :
    Except Failure Page :=
  if cursor.exhausted then .ok (.empty cursor)
  else do
    let _ ← requireCollection query.collection
    let predicate ← service.predicateFor query.condition
    let offset ← service.located query isClosed cursor.token
    return service.piece query (service.reading query predicate rows) offset

theorem length_arrange_le (service : Service) (statement : Statement Predicate) (rows : List Row) :
    (service.arrange statement rows).length ≤ min rows.length wordMax := by
  have same := (sorted_perm (compareRows statement.sorts) rows).length_eq
  simp only [arrange, List.length_map, List.length_take, List.length_drop]
  omega

theorem length_reading_le (service : Service) (query : Query) (predicate : Option Predicate)
    (rows : List StoredRow) :
    (service.reading query predicate rows).length ≤ min (service.picked predicate rows).length wordMax := by
  have bound := service.length_arrange_le (query.statement predicate none)
    ((service.picked predicate rows).map service.view)
  simpa [reading] using bound

theorem answer_eq (service : Service) {store : Store} (query : Query) (predicate : Option Predicate)
    (token : Option PagingToken) (distinct : DistinctKeys (store.rowsOf query.collection)) :
    service.answer store (query.statement predicate token) =
      service.arrange (query.statement predicate none)
        ((service.picked predicate (live (store.rowsOf query.collection) store.now)).map service.view) := by
  rw [← service.selected_rows distinct, List.map_map]
  rfl

theorem effect_execute (service : Service) (statement : Statement Predicate) (store : Store) :
    effect (service.execute statement) store =
      (if store.isClosed then .error (.ofNote service.closedText)
      else (startOf statement.token).map fun offset =>
        let rows := service.answer store statement
        let stop := min (min (offset + service.pageSize statement) wordMax) rows.length
        let token := if stop < rows.length then some (tokenOf stop) else none
        { rows := (rows.take stop).drop offset, token := token, exhausted := token.isNone }, store) := by
  simp only [execute, effect_bind, effect_state]
  cases store.isClosed with
  | true => simp [effect_bind]
  | false =>
    simp only [Bool.false_eq_true, if_false, effect_bind, effect_ofResult, effect_log, effect_pure]
    cases startOf statement.token <;> rfl

/-- The page of a response is the page of the list that the response is cut from. -/
theorem pageOf_response (service : Service) (query : Query) {rows : List Row} (counted : rows.length ≤ wordMax)
    (offset size : Nat) :
    service.executor.pageOf query
      (let stop := min (min (offset + size) wordMax) rows.length
       let token := if stop < rows.length then some (tokenOf stop) else none
       { rows := (rows.take stop).drop offset, token := token, exhausted := token.isNone }) =
      pageFrom (rows.map fun row => service.converter.entityOf row query.collection) offset size := by
  have stop : min (min (offset + size) wordMax) rows.length = min (offset + size) rows.length := by omega
  simp only [stop, Executor.pageOf, Response.page, Response.next, pageFrom, List.length_map, List.map_drop,
    List.map_take]
  by_cases more : min (offset + size) rows.length < rows.length
  · simp only [more, if_true, Option.isNone_some, Bool.or_self, Bool.false_eq_true, if_false]
    rfl
  · simp only [more, if_false, Option.isNone_none, Bool.or_self, if_true]
    rfl

/-- A native call gives a page, and its failures are wrapped. -/
theorem effect_nativePage (service : Service) {store : Store} (query : Query) (predicate : Option Predicate)
    (token : Option PagingToken) (distinct : DistinctKeys (store.rowsOf query.collection)) :
    effect (service.executor.nativePage query predicate ⟨token, false⟩) store =
      ((service.located query store.isClosed token).map fun offset =>
        pageFrom (service.reading query predicate (live (store.rowsOf query.collection) store.now)) offset
          (service.rowsPerPage query), store) := by
  have executed := service.effect_execute (query.statement predicate token) store
  rw [answer_eq service query predicate token distinct] at executed
  change effect (service.executor.session.execute (query.statement predicate token)) store = _ at executed
  rw [Executor.effect_nativePage, executed]
  cases store.isClosed with
  | true => rfl
  | false =>
    have start : (query.statement predicate token).token = token := rfl
    rw [start]
    simp only [located, Bool.false_eq_true, if_false]
    cases startOf token with
    | error failure => rfl
    | ok offset =>
      have counted := service.length_arrange_le (query.statement predicate none)
        ((service.picked predicate (live (store.rowsOf query.collection) store.now)).map service.view)
      have size : service.pageSize (query.statement predicate token) = service.rowsPerPage query :=
        Nat.max_comm ..
      have page := service.pageOf_response query (Nat.le_trans counted (Nat.min_le_right ..)) offset
        (service.rowsPerPage query)
      rw [size]
      exact congrArg (fun page => (Except.ok page, store)) page

theorem located_eq_ok_iff {service : Service} {query : Query} {isClosed : Bool} {token : Option PagingToken}
    {offset : Nat} :
    service.located query isClosed token = .ok offset ↔ isClosed = false ∧ startOf token = .ok offset := by
  cases isClosed <;> cases start : startOf token <;> simp [located, start]

/-- A budget is never spent: every page that is not the last has an entity, and there are no more entities
than rows. -/
theorem length_reading_lt_budget (service : Service) {store : Store} (query : Query) (predicate : Option Predicate)
    (distinct : DistinctKeys (store.rowsOf query.collection)) :
    (service.reading query predicate (live (store.rowsOf query.collection) store.now)).length <
      budget store query.collection := by
  have short := service.length_reading_le query predicate (live (store.rowsOf query.collection) store.now)
  have picked := service.length_picked_le (distinctKeys_live distinct store.now) predicate
  have lives : (live (store.rowsOf query.collection) store.now).length ≤ (store.rowsOf query.collection).length :=
    List.length_filter_le ..
  unfold budget
  omega

/-- Reading all pages in one call reads the list from the offset of the token on. -/
theorem effect_drain (service : Service) {store : Store} (query : Query) (predicate : Option Predicate)
    (token : Option PagingToken) (distinct : DistinctKeys (store.rowsOf query.collection)) :
    effect (follow (service.executor.nativePage query predicate) (budget store query.collection) ⟨token, false⟩)
        store =
      ((service.located query store.isClosed token).map fun offset =>
        ⟨(service.reading query predicate (live (store.rowsOf query.collection) store.now)).drop offset,
          .finished⟩, store) := by
  have page (token : Option PagingToken) := service.effect_nativePage query predicate token distinct
  cases start : service.located query store.isClosed token with
  | error failure =>
    have failed := page token
    rw [start] at failed
    exact effect_follow_failed failed _
  | ok offset =>
    obtain ⟨isOpen, started⟩ := located_eq_ok_iff.mp start
    have counted := service.length_reading_le query predicate (live (store.rowsOf query.collection) store.now)
    have enough := service.length_reading_lt_budget query predicate distinct
    have pages (state : Store) (token : Option PagingToken) (offset : Nat) (same : state = store)
        (started : startOf token = .ok offset) :
        ∃ after, effect (service.executor.nativePage query predicate ⟨token, false⟩) state =
          (.ok (pageFrom (service.reading query predicate (live (store.rowsOf query.collection) store.now)) offset
            (service.rowsPerPage query)), after) ∧ after = store := by
      subst same
      refine ⟨state, ?_, rfl⟩
      rw [page token, located_eq_ok_iff.mpr ⟨isOpen, started⟩]
      rfl
    obtain ⟨after, walked, same⟩ := follow_pages (Nat.le_max_left ..)
      (Nat.le_trans counted (Nat.min_le_right ..)) pages rfl started (Nat.lt_of_le_of_lt (Nat.sub_le ..) enough)
    exact same ▸ walked

/-- A read leaves the store as it is, and depends on the live rows of its collection alone. -/
theorem effect_select (service : Service) {store : Store} (query : Query) (cursor : Cursor)
    (distinct : DistinctKeys (store.rowsOf query.collection)) :
    effect (service.select query cursor) store =
      (service.reads query cursor store.isClosed (live (store.rowsOf query.collection) store.now), store) := by
  simp only [select, effect_bind, effect_state]
  cases last : cursor.exhausted with
  | true => rw [Executor.effect_select_exhausted _ _ _ last]; simp [reads, last]
  | false =>
    obtain ⟨token, _⟩ := cursor
    subst last
    have builder : service.executor.session.builder = service.builder := rfl
    have mode : service.executor.mode = service.settings.paging := rfl
    rw [Executor.effect_select _ _ _ rfl, builder, mode]
    simp only [reads, Bool.false_eq_true, if_false, predicateFor]
    cases requireCollection query.collection with
    | error failure => rfl
    | ok _ =>
      cases service.builder.predicateFor query.condition with
      | error failure => rfl
      | ok predicate =>
        unfold piece
        cases service.settings.paging with
        | pagingState =>
          simp only [service.effect_nativePage query predicate token distinct]
          cases service.located query store.isClosed token <;> rfl
        | drain =>
          simp only [service.effect_drain query predicate token distinct]
          cases service.located query store.isClosed token <;> rfl

/-- A read behind a cursor that is not exhausted, once the query has passed its checks. -/
theorem reads_eq {service : Service} {query : Query} {predicate : Option Predicate} {token : Option PagingToken}
    {offset : Nat} (named : Text.isAllBlank query.collection = false)
    (accepted : service.predicateFor query.condition = .ok predicate) (start : startOf token = .ok offset)
    (rows : List StoredRow) :
    service.reads query ⟨token, false⟩ false rows =
      .ok (service.piece query (service.reading query predicate rows) offset) := by
  simp only [reads, requireCollection, named, accepted, located_eq_ok_iff.mpr ⟨rfl, start⟩]
  rfl

/-- Following the cursors from the start reads the whole list in either mode, whatever passes between two reads
if it changes neither the live rows nor that the store is open. -/
theorem follow_reads {σ : Type} {service : Service} {query : Query} {predicate : Option Predicate}
    {rows : List StoredRow} {read : Cursor → Action Failure σ Page} {unchanged : σ → Prop}
    (named : Text.isAllBlank query.collection = false)
    (accepted : service.predicateFor query.condition = .ok predicate)
    (reads : ∀ state cursor, unchanged state →
      ∃ after, effect (read cursor) state = (service.reads query cursor false rows, after) ∧ unchanged after)
    {budget : Nat} {state : σ} (same : unchanged state)
    (enough : (service.reading query predicate rows).length < budget) :
    ∃ after, effect (follow read budget .start) state =
      (.ok ⟨service.reading query predicate rows, .finished⟩, after) ∧ unchanged after := by
  have counted := service.length_reading_le query predicate rows
  cases mode : service.settings.paging with
  | pagingState =>
    have pages (state : σ) (token : Option PagingToken) (offset : Nat) (same : unchanged state)
        (start : startOf token = .ok offset) :
        ∃ after, effect (read ⟨token, false⟩) state =
          (.ok (pageFrom (service.reading query predicate rows) offset (service.rowsPerPage query)), after) ∧
            unchanged after := by
      obtain ⟨after, first, still⟩ := reads state ⟨token, false⟩ same
      rw [reads_eq named accepted start, piece, mode] at first
      exact ⟨after, first, still⟩
    have start : startOf none = .ok 0 := rfl
    exact follow_pages (Nat.le_max_left ..) (by omega) pages same start (by omega)
  | drain =>
    obtain ⟨budget, rfl⟩ : ∃ fewer, budget = fewer + 1 := ⟨budget - 1, by omega⟩
    obtain ⟨after, first, still⟩ := reads state .start same
    have start : startOf none = .ok 0 := rfl
    rw [Cursor.start, reads_eq named accepted start, piece, mode] at first
    exact ⟨after, effect_follow_last first rfl budget, still⟩

theorem effect_selectAll (service : Service) {store : Store} {query : Query} {predicate : Option Predicate}
    (isOpen : store.isClosed = false) (distinct : DistinctKeys (store.rowsOf query.collection))
    (named : Text.isAllBlank query.collection = false)
    (accepted : service.predicateFor query.condition = .ok predicate) :
    effect (service.selectAll query) store =
      (.ok (service.reading query predicate (live (store.rowsOf query.collection) store.now)), store) := by
  have reads (state : Store) (cursor : Cursor) (same : state = store) :
      ∃ after, effect (service.executor.select (budget store query.collection) query cursor) state =
        (service.reads query cursor false (live (store.rowsOf query.collection) store.now), after) ∧
          after = store := by
    subst same
    have read := service.effect_select query cursor distinct
    rw [isOpen] at read
    exact ⟨state, read, rfl⟩
  obtain ⟨after, walked, rfl⟩ := follow_reads named accepted reads rfl
    (service.length_reading_lt_budget query predicate distinct)
  simp only [selectAll, effect_bind, effect_state, Executor.selectAll, walked]
  rfl

end Service

end Polystore.Store
