import Polystore.Proofs.Store.Failures
import Polystore.Proofs.Store.Shown

/-!
Revisions over the lives of a row. A row lives from the insert that finds no live row of its key until it is
removed or expires. Its revision starts at one and counts the writes and the removals of fields since then,
whoever takes the steps and in whatever order.
-/
namespace Polystore

theorem Entity.find?_replace (entity : Entity) (field : Field) :
    (entity.replace field).find? field.name = some field := by
  have gone : (entity.fields.filter fun other => decide (other.name ≠ field.name)).find?
      (fun other => decide (other.name = field.name)) = none := by
    refine List.find?_eq_none.mpr fun other member => ?_
    simpa using (List.mem_filter.mp member).2
  simp only [find?, replace, add, remove, List.find?_append, gone]
  simp

theorem Entity.find?_replace_of_ne (entity : Entity) {field : Field} {name : String} (other : field.name ≠ name) :
    (entity.replace field).find? name = entity.find? name := by
  have last : [field].find? (fun field => field.name = name) = none := by simp [other]
  simp only [find?, replace, add, remove, List.find?_append, last, Option.or_none, List.find?_filter]
  refine congrArg (List.find? · entity.fields) ?_
  funext field'
  by_cases here : field'.name = name
  · simp [here, other.symm]
  · simp [here]

namespace Store

open Polystore.Action

/-- The live row of a key. -/
def rowOf? (store : Store) (collection key : String) : Option StoredRow :=
  (live (store.rowsOf collection) store.now).find? fun row => row.key = key

/-- The revision of the live row of a key. -/
def revision? (store : Store) (collection key : String) : Option Nat :=
  (store.rowOf? collection key).map StoredRow.revision

theorem rowOf?_put (store : Store) (collection other key : String) (rows : List StoredRow) :
    (store.put collection rows).rowOf? other key =
      if collection = other then (live rows store.now).find? fun row => row.key = key
      else store.rowOf? other key := by
  unfold rowOf?
  rw [rowsOf_put, put_now]
  split <;> rfl

/-- Clearing expired rows away changes no live row. -/
theorem live_purged (store : Store) (collection other : String) :
    live ((store.purged collection).rowsOf other) (store.purged collection).now =
      live (store.rowsOf other) store.now := by
  rw [purged, rowsOf_put, put_now]
  split
  · rename_i same
    rw [live_live_now, same]
  · rfl

@[simp] theorem rowOf?_purged (store : Store) (collection other key : String) :
    (store.purged collection).rowOf? other key = store.rowOf? other key := by
  unfold rowOf?
  rw [live_purged]

theorem rowOf?_of_mem {store : Store} {collection : String} (distinct : DistinctKeys (store.rowsOf collection))
    {row : StoredRow} (lives : row ∈ live (store.rowsOf collection) store.now) :
    store.rowOf? collection row.key = some row :=
  find?_of_mem (distinctKeys_live distinct store.now) lives

/-- What lives later lives now, as it is. -/
theorem rowOf?_elapse {store : Store} {collection key : String} {milliseconds : Nat} {row : StoredRow}
    (distinct : DistinctKeys (store.rowsOf collection))
    (lives : (store.elapse milliseconds).rowOf? collection key = some row) :
    store.rowOf? collection key = some row := by
  have later : store.now ≤ (store.elapse milliseconds).now := Nat.le_add_right ..
  have same : (store.elapse milliseconds).rowsOf collection = store.rowsOf collection := rfl
  unfold rowOf? at lives ⊢
  rw [same, ← live_live later, find?_live (distinctKeys_live distinct store.now)] at lives
  exact (Option.filter_eq_some_iff.mp lives).1

namespace Service

/-- The key that an operation asks to write in a collection. -/
def keyWritten? (service : Service) (collection : String) (madeKeys : Nat) : Operation → Option String
  | .write mode entity =>
    if entity.collection = collection then
      (service.draft mode entity madeKeys).toOption.map fun draft => draft.key.text
    else none
  | _ => none

/-- Whether an operation asks to remove fields of the live row of a key. -/
def strips (service : Service) (store : Store) (collection key : String) : Operation → Bool
  | .delete query =>
    query.collection = collection && !query.projection.isEmpty &&
      (service.planned query).toOption.any fun predicate =>
        ((service.picked predicate (live (store.rowsOf collection) store.now)).map StoredRow.key).contains key
  | _ => false

/-- Whether an operation writes a key or removes fields of its row, and does not fail. -/
def touches (service : Service) (store : Store) (collection key : String) (operation : Operation) : Bool :=
  (service.step operation store).1.isOk &&
    (service.keyWritten? collection store.madeKeys operation = some key ||
      service.strips store collection key operation)

/-- How many operations of a run touch the row of a key. -/
def countTouches (service : Service) (collection key : String) : List Operation → Store → Nat
  | [], _ => 0
  | operation :: rest, store =>
    (service.touches store collection key operation).toNat +
      countTouches service collection key rest (service.step operation store).2

/-- The row of a key lives before a run, after it and between its operations. -/
def LivesThrough (service : Service) (collection key : String) : List Operation → Store → Prop
  | [], store => (store.revision? collection key).isSome
  | operation :: rest, store =>
    (store.revision? collection key).isSome ∧
      LivesThrough service collection key rest (service.step operation store).2

/-- The row that a write leaves under its key is the one it makes, and every other stays as it is. -/
theorem rowOf?_commit {store : Store} {draft : Draft} {entity : Entity} {row : StoredRow}
    (distinct : DistinctKeys (store.rowsOf entity.collection)) (collection key : String) :
    (commit store entity.collection draft.key (setRow row (found store entity))).rowOf? collection key =
      if entity.collection = collection ∧ row.key = key then
        (some row).filter fun row => !row.isExpired store.now
      else store.rowOf? collection key := by
  have put : (commit store entity.collection draft.key (setRow row (found store entity))).rowOf? collection key =
      (store.put entity.collection (setRow row (found store entity))).rowOf? collection key := rfl
  have lives := distinctKeys_live distinct store.now
  rw [put, rowOf?_put]
  by_cases here : entity.collection = collection
  · subst here
    unfold found
    rw [if_pos rfl, find?_live (distinctKeys_setRow lives row), find?_setRow]
    by_cases same : row.key = key
    · rw [if_pos same, if_pos ⟨rfl, same⟩]
    · rw [if_neg same, if_neg fun both => same both.2, ← find?_live lives, live_live_now]
      rfl
  · rw [if_neg here, if_neg fun both => here both.1]

private theorem find?_filter_keys (rows : List StoredRow) (keep : String → Bool) (key : String) :
    (rows.filter fun row => keep row.key).find? (fun row => row.key = key) =
      if keep key then rows.find? fun row => row.key = key else none := by
  rw [List.find?_filter]
  cases kept : keep key with
  | true =>
    rw [if_pos rfl]
    refine congrArg (List.find? · rows) (funext fun row => ?_)
    by_cases here : row.key = key <;> simp [here, kept]
  | false =>
    rw [if_neg Bool.false_ne_true]
    refine List.find?_eq_none.mpr fun row _ both => ?_
    have holds : keep row.key = true ∧ row.key = key := by simpa using both
    rw [holds.2, kept] at holds
    exact Bool.false_ne_true holds.1

/-- The row of a key that a removal leaves is the one before, without the fields that it removes. -/
theorem find?_remaining (service : Service) {rows : List StoredRow} (distinct : DistinctKeys rows)
    (query : DeleteQuery) (predicate : Option Predicate) (now : Nat) (key : String) :
    (live (service.remaining query predicate now rows) now).find? (fun row => row.key = key) =
      if ((service.picked predicate (live rows now)).map StoredRow.key).contains key then
        if query.projection.isEmpty then none
        else ((live rows now).find? fun row => row.key = key).map (strip query.projection)
      else (live rows now).find? fun row => row.key = key := by
  unfold remaining
  generalize chosen : (service.picked predicate (live rows now)).map StoredRow.key = keys
  by_cases wholly : query.projection.isEmpty = true
  · simp only [wholly, if_true]
    rw [without_selected service distinct, chosen, live, List.filter_comm, ← live, live_live_now,
      find?_filter_keys _ fun key => !keys.contains key]
    cases keys.contains key <;> rfl
  · simp only [wholly, Bool.false_eq_true, if_false]
    rw [stripAt_selected service distinct, chosen, live_map fun row => by split <;> rfl, List.find?_map]
    have sameKey : ((fun row : StoredRow => decide (row.key = key)) ∘ fun row : StoredRow =>
        if keys.contains row.key then strip query.projection row else row) =
        fun row : StoredRow => decide (row.key = key) := by
      funext row
      simp only [Function.comp_apply]
      split <;> rfl
    rw [sameKey]
    cases found : (live rows now).find? fun row => row.key = key with
    | none => simp
    | some row =>
      have here : row.key = key := by simpa using List.find?_some found
      simp only [Option.map_some, here]
      split <;> rfl

/-- How a key comes to a revision: its row lived on, raised by one if it was touched, or its life began. -/
inductive Advance : Bool → Option Nat → Nat → Prop where
  | kept (revision : Nat) : Advance false (some revision) revision
  | raised (revision : Nat) : Advance true (some revision) (revision + 1)
  | born : Advance true none 1

theorem Advance.of_some {touched : Bool} {before after : Nat} (advance : Advance touched (some before) after) :
    after = before + touched.toNat := by
  cases advance with
  | kept => rfl
  | raised => rfl

theorem Advance.of_touched {before : Option Nat} {after : Nat} (advance : Advance true before after) :
    after = before.elim 1 (· + 1) := by
  cases advance with
  | raised => rfl
  | born => rfl

/-- What becomes of the row of a key that lives behind an operation: it is the row before, or the operation has touched
it and numbered it one behind the row before. -/
inductive Passage (before : Option StoredRow) : Bool → StoredRow → Prop where
  | spared {row : StoredRow} (same : before = some row) : Passage before false row
  | touched {row : StoredRow} (follows : row.revision = (before.map StoredRow.revision).elim 1 (· + 1)) :
    Passage before true row

theorem Passage.of_spared {before : Option StoredRow} {touched : Bool} {row : StoredRow} (none : touched = false)
    (same : before = some row) : Passage before touched row :=
  none ▸ .spared same

theorem Passage.of_touched {before : Option StoredRow} {touched : Bool} {row : StoredRow} (some : touched = true)
    (follows : row.revision = (before.map StoredRow.revision).elim 1 (· + 1)) : Passage before touched row :=
  some ▸ .touched follows

theorem Passage.advance {before : Option StoredRow} {touched : Bool} {row : StoredRow}
    (passage : Passage before touched row) : Advance touched (before.map StoredRow.revision) row.revision := by
  cases passage with
  | spared same =>
    subst same
    exact .kept row.revision
  | touched follows =>
    rw [follows]
    cases before with
    | none => exact .born
    | some old => exact .raised old.revision

/-- A write numbers the row that it makes one behind the row that it finds. -/
theorem revision_of_entryIn {mode : WriteMode} {now : Nat} {draft : Draft} {rows : List StoredRow} {row : StoredRow}
    (made : entryIn mode now draft rows = some row) :
    row.revision =
      ((rows.find? fun old => old.key = draft.key.text).map StoredRow.revision).elim 1 (· + 1) := by
  unfold entryIn at made
  cases present : rows.find? fun old => old.key = draft.key.text with
  | some old =>
    rw [present] at made
    cases made
    rfl
  | none =>
    rw [present] at made
    cases mode <;> cases made
    rfl

theorem keyWritten?_of_draft {service : Service} {mode : WriteMode} {entity : Entity} {madeKeys : Nat} {draft : Draft}
    (drafted : service.draft mode entity madeKeys = .ok draft) (collection : String) :
    service.keyWritten? collection madeKeys (.write mode entity) =
      if entity.collection = collection then some draft.key.text else none := by
  rw [keyWritten?, drafted]
  rfl

theorem WriteEnd.passage {service : Service} {mode : WriteMode} {entity : Entity} {store : Store}
    {ending : Except Failure Entity × Store} (distinct : DistinctKeys (store.rowsOf entity.collection))
    (ends : WriteEnd service mode entity store ending) {collection key : String} {row : StoredRow}
    (lives : ending.2.rowOf? collection key = some row) :
    Passage (store.rowOf? collection key)
      (ending.1.isOk && decide (service.keyWritten? collection store.madeKeys (.write mode entity) = some key))
      row := by
  cases ends with
  | undrafted failure undrafted => exact .of_spared rfl lives
  | closed draft drafted isClosed => exact .of_spared rfl lives
  | absent draft drafted isOpen absent =>
    rw [rowOf?_purged] at lives
    exact .of_spared rfl lives
  | written draft drafted isOpen made entered =>
    have sameKey := (of_entryIn_eq_some entered).1
    rw [rowOf?_commit distinct] at lives
    rw [keyWritten?_of_draft drafted]
    by_cases here : entity.collection = collection ∧ made.key = key
    · obtain ⟨rfl, rfl⟩ := here
      rw [if_pos ⟨rfl, rfl⟩] at lives
      obtain rfl := Option.some.inj (Option.filter_eq_some_iff.mp lives).1
      have follows := revision_of_entryIn entered
      rw [← sameKey] at follows
      exact .of_touched (by simp [sameKey, Except.isOk, Except.toBool]) follows
    · rw [if_neg here] at lives
      have other : ¬ (if entity.collection = collection then some draft.key.text else none) = some key := by
        intro same
        split at same
        · rename_i sameCollection
          exact here ⟨sameCollection, sameKey.trans (Option.some.inj same)⟩
        · cases same
      exact .of_spared (by simp [other]) lives

theorem DeleteEnd.passage {service : Service} {query : DeleteQuery} {store : Store}
    {ending : Except Failure Nat × Store} (distinct : DistinctKeys (store.rowsOf query.collection))
    (ends : DeleteEnd service query store ending) {collection key : String} {row : StoredRow}
    (lives : ending.2.rowOf? collection key = some row) :
    Passage (store.rowOf? collection key) (ending.1.isOk && service.strips store collection key (.delete query))
      row := by
  cases ends with
  | unplanned failure unplanned => exact .of_spared rfl lives
  | closed predicate planned isClosed => exact .of_spared rfl lives
  | unknown predicate planned isOpen unknown =>
    have none : store.rowsOf query.collection = [] := by rw [rowsOf, unknown]; rfl
    have spared : service.strips store collection key (.delete query) = false := by
      by_cases here : query.collection = collection
      · subst here
        simp [strips, planned, none, Except.toOption]
      · simp [strips, here]
    exact .of_spared (by simp [spared]) lives
  | removed predicate planned isOpen rows known =>
    have all : store.rowsOf query.collection = rows := by rw [rowsOf, known]; rfl
    rw [all] at distinct
    rw [rowOf?_put] at lives
    by_cases here : query.collection = collection
    · subst here
      rw [if_pos rfl, service.find?_remaining distinct, ← all] at lives
      have chosen : service.strips store query.collection key (.delete query) =
          (!query.projection.isEmpty &&
            ((service.picked predicate (live (store.rowsOf query.collection) store.now)).map
              StoredRow.key).contains key) := by
        simp [strips, planned, Except.toOption]
      rw [chosen]
      cases picked : ((service.picked predicate (live (store.rowsOf query.collection) store.now)).map
        StoredRow.key).contains key with
      | false =>
        rw [picked] at lives
        exact .of_spared (by simp) lives
      | true =>
        rw [picked, if_pos rfl] at lives
        split at lives
        · cases lives
        · rename_i fields
          obtain ⟨old, found, rfl⟩ := Option.map_eq_some_iff.mp lives
          have before : store.rowOf? query.collection key = some old := found
          exact .of_touched (by simp [fields, Except.isOk, Except.toBool]) (by rw [before]; rfl)
    · rw [if_neg here] at lives
      exact .of_spared (by simp [strips, here]) lives

/-- What one operation does to the row of a key that lives behind it. -/
theorem step_passage {service : Service} {store : Store} (sound : Sound service.settings store)
    (operation : Operation) {collection key : String} {row : StoredRow}
    (lives : (service.step operation store).2.rowOf? collection key = some row) :
    Passage (store.rowOf? collection key) (service.touches store collection key operation) row := by
  unfold touches
  cases operation with
  | write mode entity =>
    rw [step_write] at lives ⊢
    have passage := (write_end service mode entity store).passage (sound.rowsOf entity.collection).distinct lives
    simpa [strips] using passage
  | delete query =>
    rw [step_delete] at lives ⊢
    have passage := (delete_end service query store).passage (sound.rowsOf query.collection).distinct lives
    simpa [keyWritten?] using passage
  | select query cursor =>
    rw [step_select service query cursor (sound.rowsOf query.collection).distinct] at lives
    exact .of_spared (by simp [keyWritten?, strips]) lives
  | close => exact .of_spared (by simp [keyWritten?, strips]) lives
  | elapse milliseconds =>
    exact .of_spared (by simp [keyWritten?, strips]) (rowOf?_elapse (sound.rowsOf collection).distinct lives)

/-- What one operation does to the revision of a key whose row lives behind it. -/
theorem step_advance {service : Service} {store : Store} (sound : Sound service.settings store)
    (operation : Operation) {collection key : String} {revision : Nat}
    (lives : (service.step operation store).2.revision? collection key = some revision) :
    Advance (service.touches store collection key operation) (store.revision? collection key) revision := by
  obtain ⟨row, still, rfl⟩ := Option.map_eq_some_iff.mp lives
  exact (step_passage sound operation still).advance

theorem LivesThrough.lives {service : Service} {collection key : String} {operations : List Operation}
    {store : Store} (through : service.LivesThrough collection key operations store) :
    (store.revision? collection key).isSome := by
  cases operations with
  | nil => exact through
  | cons operation rest => exact through.1

/-- As long as a row lives its revision counts what touches it. -/
theorem run_revision? {service : Service} {store : Store} (sound : Sound service.settings store)
    {collection key : String} (operations : List Operation)
    (through : service.LivesThrough collection key operations store) {revision : Nat}
    (start : store.revision? collection key = some revision) :
    (service.run operations store).state.revision? collection key =
      some (revision + service.countTouches collection key operations store) := by
  induction operations generalizing store revision with
  | nil => exact start
  | cons operation rest ih =>
    obtain ⟨_, later⟩ := through
    obtain ⟨next, lives⟩ := Option.isSome_iff_exists.mp later.lives
    have advance := step_advance sound operation lives
    rw [start] at advance
    have whole := ih (step_sound sound operation) later lives
    rw [advance.of_some, Nat.add_assoc] at whole
    exact whole

/-- As long as a row lives and nothing touches it, it stays as it is. -/
theorem run_untouched {service : Service} {store : Store} (sound : Sound service.settings store)
    {collection key : String} (operations : List Operation)
    (through : service.LivesThrough collection key operations store)
    (untouched : service.countTouches collection key operations store = 0) :
    (service.run operations store).state.rowOf? collection key = store.rowOf? collection key := by
  induction operations generalizing store with
  | nil => rfl
  | cons operation rest ih =>
    obtain ⟨_, later⟩ := through
    obtain ⟨spared, others⟩ := Nat.add_eq_zero_iff.mp untouched
    refine (ih (step_sound sound operation) later others).trans ?_
    obtain ⟨row, lives⟩ := Option.isSome_iff_exists.mp (Option.isSome_map.symm.trans later.lives)
    have passage := step_passage sound operation lives
    cases touched : service.touches store collection key operation with
    | true =>
      rw [touched] at spared
      cases spared
    | false =>
      rw [touched] at passage
      cases passage with
      | spared same => rw [lives, same]

/-- The revision that an entity shows. -/
def revisionShown (service : Service) (entity : Entity) : Option Value :=
  (entity.find? service.settings.revision).map Named.value

theorem revisionShown_stamped (service : Service) (entity : Entity) (key : Key) (revision : Nat) :
    service.revisionShown (service.stamped entity key revision) = some (revisionValue revision) := by
  have last := (entity.replace ⟨service.settings.key, key.value⟩).find?_replace
    ⟨service.settings.revision, revisionValue revision⟩
  unfold revisionShown stamped Entity.replaceAll
  rw [List.foldl_cons, List.foldl_cons, List.foldl_nil, last]
  rfl

/-- Revisions that eight bytes can count are told apart. -/
theorem revisionValue_injective {a b : Nat} (smaller : a ≤ wordMax) (counted : b ≤ wordMax)
    (same : revisionValue a = revisionValue b) : a = b := by
  have fits (n : Nat) (bound : n ≤ wordMax) : IntKind.u64.Fits n := by
    simp only [wordMax, UInt64.size] at bound
    simp only [IntKind.Fits, IntKind.least, IntKind.greatest]
    omega
  unfold revisionValue Value.word at same
  have words : Word.clamp .u64 (a : Int) = Word.clamp .u64 (b : Int) := by simpa using same
  have values := congrArg Word.val words
  rw [Word.clamp_val (fits a smaller), Word.clamp_val (fits b counted)] at values
  exact Int.ofNat_inj.mp values

/-- What the write of an entity under a key gives, by the revision of the live row of the key. -/
def writeAnswer (service : Service) (mode : WriteMode) (entity : Entity) (key : Key) : Option Nat → Answer
  | some revision => .ok (.entity (service.stamped entity key (revision + 1)))
  | none =>
    match mode with
    | .insert _ => .ok (.entity (service.stamped entity key 1))
    | .update => .error (absentRefusal entity.collection key)

theorem step_write_let_in {service : Service} {store : Store} {mode : WriteMode} {entity : Entity} {draft : Draft}
    (drafted : service.draft mode entity store.madeKeys = .ok draft) (isOpen : store.isClosed = false) :
    (service.step (.write mode entity) store).1 =
      service.writeAnswer mode entity draft.key (store.revision? entity.collection draft.key.text) := by
  have present : store.revision? entity.collection draft.key.text =
      ((found store entity).find? fun old => old.key = draft.key.text).map StoredRow.revision := rfl
  rw [step_write, effect_write_of_draft drafted isOpen, present]
  unfold entryIn
  cases (found store entity).find? fun old => old.key = draft.key.text with
  | some old => rfl
  | none => cases mode <;> rfl

/-- A write that gives something numbers it one behind the live row of its key, and the row that it leaves is
numbered alike. -/
theorem write_numbers {service : Service} {store : Store} (sound : Sound service.settings store)
    {mode : WriteMode} {entity written : Entity} {collection key : String}
    (asks : service.keyWritten? collection store.madeKeys (.write mode entity) = some key)
    (gives : (service.step (.write mode entity) store).1 = .ok (.entity written)) :
    let revision := (store.revision? collection key).elim 1 (· + 1)
    service.revisionShown written = some (revisionValue revision) ∧
      ∀ operations, service.LivesThrough collection key operations (service.step (.write mode entity) store).2 →
        (service.run operations (service.step (.write mode entity) store).2).state.revision? collection key =
          some (revision + service.countTouches collection key operations
            (service.step (.write mode entity) store).2) := by
  intro revision
  constructor
  · have ends := write_end service mode entity store
    rw [step_write] at gives
    generalize effect (service.write mode entity) store = ending at ends gives
    cases ends with
    | undrafted failure undrafted => cases gives
    | closed draft drafted isClosed => cases gives
    | absent draft drafted isOpen absent => cases gives
    | written draft drafted isOpen row made =>
      cases gives
      rw [keyWritten?_of_draft drafted] at asks
      split at asks
      · rename_i here
        cases asks
        subst here
        rw [revisionShown_stamped, revision_of_entryIn made]
        rfl
      · cases asks
  · intro operations through
    obtain ⟨next, lives⟩ := Option.isSome_iff_exists.mp through.lives
    have touched : service.touches store collection key (.write mode entity) = true := by
      simp [touches, gives, asks, Except.isOk, Except.toBool]
    have advance := step_advance sound _ lives
    rw [touched] at advance
    have numbered : next = revision := advance.of_touched
    rw [numbered] at lives
    exact run_revision? (step_sound sound _) operations through lives

/-- How the revisions of a key go on from a store, whatever its clients do next. -/
structure RevisionProtocol (service : Service) (store : Store) (collection key : String) : Prop where
  /-- A write raises the revision of the live row of its key by one. Without a live row an insert gives the
  revision one, and an update fails. -/
  write : ∀ mode entity draft, entity.collection = collection →
    service.draft mode entity store.madeKeys = .ok draft → draft.key.text = key → store.isClosed = false →
    (service.step (.write mode entity) store).1 =
      service.writeAnswer mode entity draft.key (store.revision? collection key)
  failure : ∀ operation failure, (service.step operation store).1 = .error failure →
    (service.step operation store).2.revision? collection key = store.revision? collection key
  read : ∀ query cursor,
    (service.step (.select query cursor) store).2.revision? collection key = store.revision? collection key
  /-- Behind an operation the revision is one higher if the operation has touched the row, and else the same; and
  a row that was not there has the revision one. -/
  step : ∀ operation revision, (service.step operation store).2.revision? collection key = some revision →
    Advance (service.touches store collection key operation) (store.revision? collection key) revision
  /-- As long as the row lives, its revision counts the operations that touch it. -/
  run : ∀ operations revision, service.LivesThrough collection key operations store →
    store.revision? collection key = some revision →
    (service.run operations store).state.revision? collection key =
      some (revision + service.countTouches collection key operations store)
  /-- As long as the row lives and is not touched again, selects show the revision that a write gave. -/
  shown : ∀ mode entity written operations,
    service.keyWritten? collection store.madeKeys (.write mode entity) = some key →
    (service.step (.write mode entity) store).1 = .ok (.entity written) →
    let after := (service.step (.write mode entity) store).2
    service.LivesThrough collection key operations after →
    service.countTouches collection key operations after = 0 →
    let last := (service.run operations after).state
    ∀ query cursor page, query.collection = collection →
      (service.step (.select query cursor) last).1 = .ok (.page page) →
      ∀ shown ∈ page.entities, ∃ row, service.StandsFor last query shown row ∧
        (row.key = key → service.revisionShown shown = service.revisionShown written)
  /-- Two writes give different revisions if the row lives from the one to the other. -/
  apart : ∀ mode entity first operations mode' entity' second,
    service.keyWritten? collection store.madeKeys (.write mode entity) = some key →
    (service.step (.write mode entity) store).1 = .ok (.entity first) →
    let after := (service.step (.write mode entity) store).2
    service.LivesThrough collection key operations after →
    let last := (service.run operations after).state
    service.keyWritten? collection last.madeKeys (.write mode' entity') = some key →
    (service.step (.write mode' entity') last).1 = .ok (.entity second) →
    ∃ revision later, service.revisionShown first = some (revisionValue revision) ∧
      service.revisionShown second = some (revisionValue later) ∧
      later = revision + service.countTouches collection key operations after + 1 ∧
      (later ≤ wordMax → service.revisionShown first ≠ service.revisionShown second)

/-- In every store that a run reaches, with the operations of any clients in any order and any time between them,
the revisions of every key go on by the protocol. -/
theorem run_keeps_revision_protocol (service : Service) (operations : List Operation) (start : Nat)
    (collection key : String) :
    service.RevisionProtocol (service.run operations { now := start }).state collection key := by
  have sound : Sound service.settings (service.run operations { now := start }).state :=
    run_sound (.empty service.settings start) operations
  generalize (service.run operations { now := start }).state = store at sound
  constructor
  case write =>
    intro mode entity draft here drafted sameKey isOpen
    subst here sameKey
    exact step_write_let_in drafted isOpen
  case failure =>
    intro operation failure failed
    rcases step_failed sound failed with same | ⟨cleared, purged⟩
    · rw [same]
    · rw [purged, revision?, rowOf?_purged]
      rfl
  case read =>
    intro query cursor
    rw [step_select service query cursor (sound.rowsOf query.collection).distinct]
    rfl
  case step => exact fun operation revision lives => step_advance sound operation lives
  case run => exact fun operations revision through lives => run_revision? sound operations through lives
  case shown =>
    intro mode entity written operations asks gives after through untouched last query cursor page here selects
      shown member
    obtain ⟨number, counted⟩ := write_numbers sound asks gives
    have lives := counted operations through
    have soundLast : Sound service.settings last := run_sound (step_sound sound _) operations
    obtain ⟨row, stands⟩ := of_mem_selected_page soundLast selects member
    refine ⟨row, stands, fun sameKey => ?_⟩
    have found := rowOf?_of_mem (soundLast.rowsOf query.collection).distinct stands.lives
    rw [here, sameKey] at found
    rw [revision?, found, untouched] at lives
    have numbered : row.revision = (store.revision? collection key).elim 1 (· + 1) := Option.some.inj lives
    rw [number, revisionShown, stands.revision, numbered]
    rfl
  case apart =>
    intro mode entity first operations mode' entity' second asks gives after through last asks' gives'
    obtain ⟨number, counted⟩ := write_numbers sound asks gives
    have lives := counted operations through
    have soundLast : Sound service.settings last := run_sound (step_sound sound _) operations
    obtain ⟨number', _⟩ := write_numbers soundLast asks' gives'
    rw [lives] at number'
    refine ⟨_, _, number, number', rfl, fun fits same => ?_⟩
    rw [number, number'] at same
    have smaller := Nat.le_trans (Nat.le_add_right _ _) (Nat.le_trans (Nat.le_add_right _ 1) fits)
    have equal := revisionValue_injective smaller fits (Option.some.inj same)
    simp only [Option.elim_some] at equal
    omega

/-- The second life of a key starts at one again, and the removal of a field counts like a write. -/
theorem run_numbers_second_life :
    let service : Service := { settings := {}, converter := {} }
    let entity : Entity := ⟨"c", [⟨"_id", .text "a"⟩, ⟨"n", .text "b"⟩]⟩
    let before := [.write (.insert (some 4)) entity, .write .update entity, .elapse 5]
    let between := [.delete { collection := "c", projection := ["n"] }, .elapse 5]
    let store := (service.run before {}).state
    let last := (service.run (before ++ .write (.insert none) entity :: between) {}).state
    store.revision? "c" "a" = none ∧
      (service.step (.write (.insert none) entity) store).1 =
        .ok (.entity (service.stamped entity ⟨"a", .text "a", false⟩ 1)) ∧
      last.revision? "c" "a" = some 2 ∧
      (service.step (.write .update entity) last).1 =
        .ok (.entity (service.stamped entity ⟨"a", .text "a", false⟩ 3)) := by
  intro service entity before between store last
  let draft : Draft := ⟨⟨"a", .text "a", false⟩, [⟨"n", .scalar (.text "b")⟩]⟩
  have dead : store.revision? "c" "a" = none := by
    simp only [service, entity, before, store]
    rfl
  have alive : last.revision? "c" "a" = some 2 := by
    simp only [service, entity, before, between, last]
    rfl
  have first := (run_keeps_revision_protocol service before 0 "c" "a").write (.insert none) entity draft rfl
    (by simp only [service, entity, before, draft]; rfl) rfl (by simp only [service, entity, before]; rfl)
  have second := (run_keeps_revision_protocol service (before ++ .write (.insert none) entity :: between) 0
    "c" "a").write .update entity draft rfl
    (by simp only [service, entity, before, between, draft]; rfl) rfl
    (by simp only [service, entity, before, between]; rfl)
  refine ⟨dead, ?_, alive, ?_⟩
  · rw [dead] at first
    exact first
  · rw [alive] at second
    exact second

end Service

end Store

end Polystore
