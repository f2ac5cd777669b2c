import Polystore.Proofs.Store.Lasting
import Polystore.Proofs.Store.Paging
import Mathlib.Data.List.Infix

/-!
A paged read among the operations of other clients. A reader asks for one page after another, and between any two
of its pages the others do what they like to the store. Where they let the rows of the collection live on, the
reader ends up with every key that is there when it reads its last page, once and in order: a page that was read
stays a piece of what there is, and all that is new comes behind it.
-/
namespace Polystore.Store

open Polystore.Action

/-- What a paged read has given so far, and where it goes on. -/
structure Reader where
  entities : List Entity := []
  cursor : Cursor := .start

/-- A reader that gets an answer. One that fails leaves it where it is. -/
def Reader.accept (reader : Reader) : Answer → Reader
  | .ok (.page page) => ⟨reader.entities ++ page.entities, page.cursor⟩
  | _ => reader

/-- A turn of an interleaving: the reader asks for its next page, or another client does something. -/
inductive Turn where
  | page
  | other (operation : Operation)

/-- What the other clients do in some turns. -/
def others : List Turn → List Operation
  | [] => []
  | .page :: rest => others rest
  | .other operation :: rest => operation :: others rest

/-- The part of a list that `skip` and `limit` let through. -/
def window {α : Type} (query : Query) (items : List α) : List α :=
  (items.drop (query.skip.getD 0)).take (min (query.limit.getD wordMax) wordMax)

theorem window_grows {α : Type} (query : Query) {items more : List α} (grown : items <+: more) :
    window query items <+: window query more :=
  (List.IsPrefix.drop grown _).take _

theorem map_window {α β : Type} (query : Query) (change : α → β) (items : List α) :
    (window query items).map change = window query (items.map change) := by
  simp [window, List.map_take, List.map_drop]

theorem length_window_le {α : Type} (query : Query) (items : List α) : (window query items).length ≤ wordMax := by
  simp only [window, List.length_take]
  omega

namespace Service

/-- One turn of the reader of a query and the other clients. -/
def takeTurn (service : Service) (query : Query) (state : Reader × Store) : Turn → Reader × Store
  | .page =>
    let ending := service.step (.select query state.1.cursor) state.2
    (state.1.accept ending.1, ending.2)
  | .other operation => (state.1, (service.step operation state.2).2)

def takeTurns (service : Service) (query : Query) (turns : List Turn) (state : Reader × Store) : Reader × Store :=
  turns.foldl (service.takeTurn query) state

/-- The text of the key that an entity shows. -/
def keyShown? (service : Service) (entity : Entity) : Option String :=
  (entity.find? service.settings.key).bind fun field => field.value.toText?

/-- A reader has read these rows as they were when it read them. Their keys are the first ones that there are, and
if the reader is not at the end it goes on behind them. -/
structure HasRead (service : Service) (query : Query) (state : Reader × Store) (rows : List StoredRow) : Prop where
  entities : state.1.entities = rows.map (service.shown query)
  keyText : ∀ row ∈ rows, row.keyValue.toText? = some row.key
  keys : rows.map StoredRow.key <+: window query (state.2.keysOf query.collection)
  resumes : state.1.cursor.exhausted = false → startOf state.1.cursor.token = .ok rows.length

theorem mem_of_mem_window {α : Type} {query : Query} {items : List α} {item : α}
    (member : item ∈ window query items) : item ∈ items :=
  List.mem_of_mem_drop (List.mem_of_mem_take member)

/-- A read of an unsorted query without a condition fails, or gives the page of its window. -/
theorem reads_unsorted (service : Service) (paging : service.settings.paging = .pagingState) {query : Query}
    (unconditional : query.condition = none) (unsorted : query.sorts = []) {cursor : Cursor} {offset : Nat}
    (more : cursor.exhausted = false) (start : startOf cursor.token = .ok offset) (isClosed : Bool)
    (rows : List StoredRow) :
    (∃ failure, service.reads query cursor isClosed rows = .error failure) ∨
      service.reads query cursor isClosed rows =
        .ok (pageFrom ((window query rows).map (service.shown query)) offset (service.rowsPerPage query)) := by
  have accepted : service.predicateFor query.condition = .ok none := by rw [unconditional]; rfl
  have whole : service.reading query none rows = (window query rows).map (service.shown query) :=
    service.reading_of_unsorted unsorted none rows
  unfold reads
  rw [if_neg (by simp [more]), accepted]
  cases requireCollection query.collection with
  | error failure => exact Or.inl ⟨failure, rfl⟩
  | ok collection =>
    cases located : service.located query isClosed cursor.token with
    | error failure => exact Or.inl ⟨failure, rfl⟩
    | ok offset' =>
      obtain ⟨_, started⟩ := located_eq_ok_iff.mp located
      cases start.symm.trans started
      refine Or.inr ?_
      simp only [Except.ok_bind, piece, paging, whole]
      rfl

/-- What has the image of the first items, and the items from there to a stop, have the image of all up to the stop. -/
theorem map_append_piece {α β : Type} (change : α → β) {read all : List α}
    (first : read.map change <+: all.map change) {stop : Nat} (within : read.length ≤ stop) :
    (read ++ (all.take stop).drop read.length).map change = (all.map change).take stop := by
  have start : read.map change = ((all.map change).take stop).take read.length := by
    have taken := List.prefix_iff_eq_take.mp first
    rwa [List.length_map, ← Nat.min_eq_left within, ← List.take_take] at taken
  rw [List.map_append, List.map_drop, List.map_take, start, List.take_append_drop]

/-- A reader that is not at the end and gets the page of its window has read the rows of the page too. -/
theorem HasRead.append {service : Service} {query : Query} {state : Reader × Store}
    (sound : Sound service.settings state.2) {rows : List StoredRow} (read : service.HasRead query state rows)
    (size : Nat) :
    let lives := window query (live (state.2.rowsOf query.collection) state.2.now)
    let page := pageFrom (lives.map (service.shown query)) rows.length size
    let stop := min (rows.length + size) lives.length
    let after : Reader × Store := (⟨state.1.entities ++ page.entities, page.cursor⟩, state.2)
    service.HasRead query after (rows ++ (lives.take stop).drop rows.length) ∧
      (page.cursor.exhausted = true →
        (rows ++ (lives.take stop).drop rows.length).map StoredRow.key =
          window query (state.2.keysOf query.collection)) := by
  intro lives page stop after
  have keysOfLives : lives.map StoredRow.key = window query (state.2.keysOf query.collection) :=
    map_window query StoredRow.key _
  have first : rows.map StoredRow.key <+: lives.map StoredRow.key := keysOfLives ▸ read.keys
  have few : rows.length ≤ lives.length := by simpa using first.length_le
  have keys := map_append_piece StoredRow.key first (show rows.length ≤ stop by omega)
  have counted : (lives.map (service.shown query)).length ≤ wordMax := by
    rw [List.length_map]
    exact length_window_le query _
  obtain ⟨ends, resumes⟩ := pageFrom_cursor counted rows.length size
  rw [List.length_map] at ends
  refine ⟨⟨?_, ?_, ?_, ?_⟩, ?_⟩
  · have entities : page.entities = ((lives.take stop).drop rows.length).map (service.shown query) := by
      simp only [page, pageFrom, List.length_map, List.map_drop, List.map_take]
      rfl
    rw [List.map_append, ← read.entities, ← entities]
  · intro row member
    rcases List.mem_append.mp member with old | new
    · exact read.keyText row old
    · have member := mem_of_mem_window (List.mem_of_mem_take (List.mem_of_mem_drop new))
      exact ((sound.rowsOf query.collection).rows row (mem_live.mp member).1).keyText
  · rw [keys, keysOfLives]
    exact List.take_prefix stop _
  · intro more
    have further : ¬ stop = lives.length := fun whole => by rw [ends.mpr whole] at more; cases more
    have count : (rows ++ (lives.take stop).drop rows.length).length = rows.length + size := by
      simp only [List.length_append, List.length_drop, List.length_take]
      omega
    rw [count]
    exact startOf_eq_ok_iff.mpr (resumes more)
  · intro last
    have whole : stop = (lives.map StoredRow.key).length := by
      rw [List.length_map]
      exact ends.mp last
    rw [keys, ← keysOfLives, whole, List.take_length]

/-- A turn of the reader gives it the next rows, if any, and when it comes to its end it has read all there is. -/
theorem HasRead.page {service : Service} (paging : service.settings.paging = .pagingState) {query : Query}
    (unconditional : query.condition = none) (unsorted : query.sorts = []) {state : Reader × Store}
    (sound : Sound service.settings state.2) {rows : List StoredRow} (read : service.HasRead query state rows) :
    ∃ read, service.HasRead query (service.takeTurn query state .page) read ∧
      (state.1.cursor.exhausted = false → (service.takeTurn query state .page).1.cursor.exhausted = true →
        read.map StoredRow.key = window query (state.2.keysOf query.collection)) := by
  have answer := step_select service query state.1.cursor (sound.rowsOf query.collection).distinct
  simp only [takeTurn, answer, replying]
  cases last : state.1.cursor.exhausted with
  | true =>
    refine ⟨rows, ?_, fun more => by cases more⟩
    have same : (state.1.accept ((service.reads query state.1.cursor state.2.isClosed
        (live (state.2.rowsOf query.collection) state.2.now)).map Reply.page), state.2) = state := by
      simp [reads, last, Except.map, Reader.accept, Page.empty]
    rwa [same]
  | false =>
    rcases service.reads_unsorted paging unconditional unsorted last (read.resumes last) state.2.isClosed
      (live (state.2.rowsOf query.collection) state.2.now) with ⟨failure, failed⟩ | given
    · refine ⟨rows, ?_, ?_⟩
      · rw [failed]
        exact read
      · rw [failed]
        intro _ ended
        change state.1.cursor.exhausted = true at ended
        rw [last] at ended
        cases ended
    · rw [given]
      obtain ⟨more, whole⟩ := read.append sound (service.rowsPerPage query)
      exact ⟨_, more, fun _ ended => whole ended⟩

/-- What another client does leaves a reader where it is: the keys that it has read are still the first ones. -/
theorem HasRead.other {service : Service} {query : Query} {state : Reader × Store}
    (sound : Sound service.settings state.2) (lasting : state.2.Lasting query.collection) {operation : Operation}
    (letsLive : operation.letsLive query.collection = true) {rows : List StoredRow}
    (read : service.HasRead query state rows) :
    service.HasRead query (service.takeTurn query state (.other operation)) rows where
  entities := read.entities
  keyText := read.keyText
  keys := read.keys.trans (window_grows query (prefix_keysOf_step sound lasting letsLive))
  resumes := read.resumes

/-- A reader does not change the store. -/
theorem takeTurn_page_store {service : Service} {query : Query} {state : Reader × Store}
    (sound : Sound service.settings state.2) : (service.takeTurn query state .page).2 = state.2 := by
  have read := step_select service query state.1.cursor (sound.rowsOf query.collection).distinct
  simp only [takeTurn, read, replying]

/-- The store behind some turns is the one that the other clients leave. -/
theorem takeTurns_store {service : Service} {query : Query} (turns : List Turn) {state : Reader × Store}
    (sound : Sound service.settings state.2) :
    (service.takeTurns query turns state).2 = (service.run (others turns) state.2).state := by
  induction turns generalizing state with
  | nil => rfl
  | cons turn rest ih =>
    cases turn with
    | page =>
      have same : (service.takeTurn query state .page).2 = state.2 := takeTurn_page_store sound
      have kept : Sound service.settings (service.takeTurn query state .page).2 := same ▸ sound
      have later := ih kept
      rw [same] at later
      exact later
    | other operation =>
      have kept : Sound service.settings (service.takeTurn query state (.other operation)).2 :=
        step_sound sound operation
      exact ih kept

/-- Whatever turns it takes, a reader has read the first keys that there are. -/
theorem takeTurns_hasRead {service : Service} (paging : service.settings.paging = .pagingState) {query : Query}
    (unconditional : query.condition = none) (unsorted : query.sorts = []) (turns : List Turn)
    {state : Reader × Store} (sound : Sound service.settings state.2)
    (lasting : state.2.Lasting query.collection)
    (letsLive : ∀ operation ∈ others turns, operation.letsLive query.collection = true) {rows : List StoredRow}
    (read : service.HasRead query state rows) :
    ∃ read, service.HasRead query (service.takeTurns query turns state) read := by
  induction turns generalizing state rows with
  | nil => exact ⟨rows, read⟩
  | cons turn rest ih =>
    cases turn with
    | page =>
      have same : (service.takeTurn query state .page).2 = state.2 := takeTurn_page_store sound
      have kept : Sound service.settings (service.takeTurn query state .page).2 := same ▸ sound
      obtain ⟨more, next, _⟩ := read.page paging unconditional unsorted sound
      exact ih kept (same ▸ lasting) letsLive next
    | other operation =>
      have first := letsLive operation (List.mem_cons_self ..)
      have kept : Sound service.settings (service.takeTurn query state (.other operation)).2 :=
        step_sound sound operation
      exact ih kept (step_keysOf sound lasting first).1
        (fun other member => letsLive other (List.mem_cons_of_mem _ member)) (read.other sound lasting first)

/-- A read page by page, while others write but no row is removed or expires, gives each key that is there in the end
once, in the order of the first writes. -/
theorem interleaved_read_gives_each_key_once (service : Service) (paging : service.settings.paging = .pagingState)
    (query : Query) (unconditional : query.condition = none) (unsorted : query.sorts = [])
    (before : List Operation) (start : Nat) (turns : List Turn)
    (lasting : (service.run before { now := start }).state.Lasting query.collection)
    (letsLive : ∀ operation ∈ others turns, operation.letsLive query.collection = true) :
    let begun := (service.run before { now := start }).state
    let amid := service.takeTurns query turns ({}, begun)
    let last := service.takeTurn query amid .page
    amid.1.cursor.exhausted = false → last.1.cursor.exhausted = true →
    let atStart := begun.keysOf query.collection
    let atEnd := amid.2.keysOf query.collection
    (∃ read : List StoredRow, last.1.entities = read.map (service.shown query) ∧
        read.map StoredRow.key = window query atEnd) ∧
      (service.settings.key ≠ service.settings.revision →
        last.1.entities.map service.keyShown? = (window query atEnd).map some) ∧
      (window query atEnd).Nodup ∧
      atEnd = (atStart ++ service.writtenKeys query.collection (others turns) begun).eraseDups ∧
      ∀ key ∈ window query atStart, (window query atEnd).count key = 1 := by
  intro begun amid last more ended atStart atEnd
  have sound : Sound service.settings begun := run_sound (.empty service.settings start) before
  have store : amid.2 = (service.run (others turns) begun).state := takeTurns_store turns sound
  have soundAmid : Sound service.settings amid.2 := store ▸ run_sound sound (others turns)
  have nothing : service.HasRead query ({}, begun) [] :=
    ⟨rfl, by simp, List.nil_prefix, fun _ => rfl⟩
  obtain ⟨rows, read⟩ := takeTurns_hasRead paging unconditional unsorted turns sound lasting letsLive nothing
  obtain ⟨whole, all, complete⟩ := read.page paging unconditional unsorted soundAmid
  have keys : whole.map StoredRow.key = window query atEnd := complete more ended
  have grown : atEnd = (atStart ++ service.writtenKeys query.collection (others turns) begun).eraseDups := by
    have after := run_keysOf sound lasting letsLive
    rwa [← store] at after
  have distinct : (window query atEnd).Nodup :=
    (nodup_keysOf soundAmid query.collection).sublist ((List.take_sublist ..).trans (List.drop_sublist ..))
  refine ⟨⟨whole, all.entities, keys⟩, fun apart => ?_, distinct, grown, fun key member => ?_⟩
  · have shows : last.1.entities.map service.keyShown? = whole.map fun row => some row.key := by
      rw [all.entities, List.map_map]
      refine List.map_congr_left fun row member => ?_
      rw [Function.comp_apply, keyShown?, service.find?_shown_key apart]
      exact all.keyText row member
    rw [shows, ← keys, List.map_map]
    rfl
  · have first : atStart <+: atEnd := by
      rw [grown, List.eraseDups_append, eraseDups_of_nodup (nodup_keysOf sound query.collection)]
      exact List.prefix_append _ _
    exact List.count_eq_one_of_mem distinct ((window_grows query first).subset member)

/-- A row that comes while a reader is at its second page is read on the third, and one that is written again
is not read again. -/
theorem interleaved_read_gives_new_key :
    let service : Service := { settings := { fetchSize := 1 }, converter := {} }
    let query : Query := { collection := "c" }
    let entity (key : String) : Entity := ⟨"c", [⟨"_id", .text key⟩]⟩
    let before := [.write (.insert none) (entity "a"), .write (.insert none) (entity "b")]
    let turns := [.page, .other (.write (.insert none) (entity "d")), .page, .other (.write .update (entity "a"))]
    let begun := (service.run before {}).state
    let last := service.takeTurn query (service.takeTurns query turns ({}, begun)) .page
    last.1.cursor.exhausted = true ∧
      last.1.entities.map service.keyShown? = [some "a", some "b", some "d"] := by
  intro service query entity before turns begun last
  have more : (service.takeTurns query turns ({}, begun)).1.cursor.exhausted = false := by
    simp only [service, query, entity, before, turns, begun]
    rfl
  have ended : last.1.cursor.exhausted = true := by
    simp only [service, query, entity, before, turns, begun, last]
    rfl
  have lasting : begun.Lasting query.collection := by
    have rows : live (begun.rowsOf query.collection) begun.now =
        [⟨"a", .text "a", [], 1, none⟩, ⟨"b", .text "b", [], 1, none⟩] := by
      simp only [service, query, entity, before, begun]
      rfl
    unfold Lasting
    rw [rows]
    simp
  have letsLive : ∀ operation ∈ others turns, operation.letsLive query.collection = true := by
    simp [turns, others, Operation.letsLive]
  have keys : window query ((service.takeTurns query turns ({}, begun)).2.keysOf query.collection) =
      ["a", "b", "d"] := by
    simp only [service, query, entity, before, turns, begun]
    rfl
  obtain ⟨_, shown, _⟩ := interleaved_read_gives_each_key_once service rfl query rfl rfl before 0 turns lasting
    letsLive more ended
  refine ⟨ended, ?_⟩
  rw [shown (by decide), keys]
  rfl

end Service

end Polystore.Store
