import Polystore.Proofs.Store.Ledger

/-!
What failures leave behind. A step that fails has at most cleared expired rows away from one collection, which
no later run can tell; and a closed store keeps its collections as they are, whatever is asked of it.
-/
namespace Polystore.Store

open Polystore.Action

/-- Whether an operation looks at the rows of a store or changes them. -/
def Operation.needsOpen : Operation → Bool
  | .write .. | .delete _ => true
  | .select _ cursor => !cursor.exhausted
  | .close | .elapse _ => false

namespace Service

/-- What an operation checks before it asks whether the store is open. -/
def check (service : Service) (operation : Operation) (madeKeys : Nat) : Except Failure Unit :=
  match operation with
  | .write mode entity => (service.draft mode entity madeKeys).map fun _ => ()
  | .delete query => (service.planned query).map fun _ => ()
  | .select query _ => do
    let _ ← requireCollection query.collection
    let _ ← service.predicateFor query.condition
    return ()
  | .close | .elapse _ => .ok ()

theorem WriteEnd.purged {service : Service} {mode : WriteMode} {entity : Entity} {store after : Store}
    {failure : Failure} (ends : WriteEnd service mode entity store (.error failure, after)) :
    after = store ∨ after = store.purged entity.collection := by
  cases ends with
  | undrafted _ undrafted => exact Or.inl rfl
  | closed draft drafted isClosed => exact Or.inl rfl
  | absent draft drafted isOpen absent => exact Or.inr rfl

theorem DeleteEnd.unchanged {service : Service} {query : DeleteQuery} {store after : Store}
    {failure : Failure} (ends : DeleteEnd service query store (.error failure, after)) : after = store := by
  cases ends with
  | unplanned _ unplanned => rfl
  | closed predicate planned isClosed => rfl

/-- A step that fails has at most cleared expired rows away. -/
theorem step_failed {service : Service} {store : Store} (sound : Sound service.settings store)
    {operation : Operation} {failure : Failure} (failed : (service.step operation store).1 = .error failure) :
    (service.step operation store).2 = store ∨
      ∃ collection, (service.step operation store).2 = store.purged collection := by
  cases operation with
  | write mode entity =>
    rw [step_write] at failed ⊢
    have ends := write_end service mode entity store
    rw [← Prod.mk.eta (p := effect _ _), Except.of_map_eq_error failed] at ends
    exact ends.purged.imp_right fun cleared => ⟨entity.collection, cleared⟩
  | delete query =>
    rw [step_delete] at failed ⊢
    have ends := delete_end service query store
    rw [← Prod.mk.eta (p := effect _ _), Except.of_map_eq_error failed] at ends
    exact Or.inl ends.unchanged
  | select query cursor =>
    rw [step_select service query cursor (sound.rowsOf query.collection).distinct]
    exact Or.inl rfl
  | close => cases failed
  | elapse milliseconds => cases failed

/-- No later run can tell whether a step that failed was taken. -/
theorem run_after_failed {service : Service} {store : Store} {ledger : Ledger} (sound : Sound service.settings store)
    (agrees : Agrees store ledger) {operation : Operation} {failure : Failure}
    (failed : (service.step operation store).1 = .error failure) (later : List Operation) :
    (service.run later (service.step operation store).2).answers = (service.run later store).answers := by
  have still : Agrees (service.step operation store).2 ledger := by
    rcases step_failed sound failed with same | ⟨collection, cleared⟩
    · rwa [same]
    · rw [cleared]
      exact agrees.purge collection
  rw [(run_agrees (step_sound sound operation) still later).1, (run_agrees sound agrees later).1]

/-- An operation fails in its own checks, or else because the store is closed. -/
def Refuses (service : Service) (operation : Operation) (madeKeys : Nat) (answer : Answer) : Prop :=
  ∃ failure, answer = .error failure ∧
    (service.check operation madeKeys = .error failure ∨
      service.check operation madeKeys = .ok () ∧ ∃ detail, failure.fault? = some (.execution driverName detail))

theorem WriteEnd.refused {service : Service} {mode : WriteMode} {entity : Entity} {store : Store}
    {ending : Except Failure Entity × Store} (closed : store.isClosed = true)
    (ends : WriteEnd service mode entity store ending) :
    ending.2 = store ∧ service.Refuses (.write mode entity) store.madeKeys (ending.1.map .entity) := by
  cases ends with
  | undrafted failure undrafted =>
    exact ⟨rfl, failure, rfl, Or.inl (by rw [check, undrafted]; rfl)⟩
  | closed draft drafted _ =>
    exact ⟨rfl, _, rfl, Or.inr ⟨by rw [check, drafted]; rfl, service.closedText, rfl⟩⟩
  | absent draft drafted isOpen absent => simp [closed] at isOpen
  | written draft drafted isOpen row written => simp [closed] at isOpen

theorem DeleteEnd.refused {service : Service} {query : DeleteQuery} {store : Store}
    {ending : Except Failure Nat × Store} (closed : store.isClosed = true)
    (ends : DeleteEnd service query store ending) :
    ending.2 = store ∧ service.Refuses (.delete query) store.madeKeys (ending.1.map .count) := by
  cases ends with
  | unplanned failure unplanned =>
    exact ⟨rfl, failure, rfl, Or.inl (by rw [check, unplanned]; rfl)⟩
  | closed predicate planned _ =>
    exact ⟨rfl, _, rfl, Or.inr ⟨by rw [check, planned]; rfl, service.closedText, rfl⟩⟩
  | unknown predicate planned isOpen unknown => simp [closed] at isOpen
  | removed predicate planned isOpen rows known => simp [closed] at isOpen

theorem fault?_readFailure (service : Service) (query : Query) (cause : Failure) :
    (service.readFailure query cause).fault? = some (.execution driverName cause.text) := by
  have name : service.builder.name = driverName := by
    unfold builder Predicate.builder
    cases service.settings.addressing <;> rfl
  exact congrArg (fun name => some (Fault.execution name cause.text)) name

theorem reads_refused (service : Service) (query : Query) {cursor : Cursor} (more : cursor.exhausted = false)
    (madeKeys : Nat) (rows : List StoredRow) :
    service.Refuses (.select query cursor) madeKeys ((service.reads query cursor true rows).map .page) := by
  simp only [Refuses, check, reads, more, Bool.false_eq_true, if_false]
  cases requireCollection query.collection with
  | error failure => exact ⟨failure, rfl, Or.inl rfl⟩
  | ok _ =>
    simp only [Except.ok_bind]
    cases service.predicateFor query.condition with
    | error failure => exact ⟨failure, rfl, Or.inl rfl⟩
    | ok predicate => exact ⟨_, rfl, Or.inr ⟨rfl, _, service.fault?_readFailure query _⟩⟩

/-- A closed store keeps its collections and stays closed, and refuses what needs an open one. -/
theorem step_closed {service : Service} {store : Store} (sound : Sound service.settings store)
    (closed : store.isClosed = true) (operation : Operation) :
    (service.step operation store).2.collections = store.collections ∧
      (service.step operation store).2.isClosed = true ∧
      (operation.needsOpen = true →
        service.Refuses operation store.madeKeys (service.step operation store).1) := by
  cases operation with
  | write mode entity =>
    obtain ⟨same, refused⟩ := (write_end service mode entity store).refused closed
    rw [step_write]
    exact ⟨congrArg collections same, (congrArg isClosed same).trans closed, fun _ => refused⟩
  | delete query =>
    obtain ⟨same, refused⟩ := (delete_end service query store).refused closed
    rw [step_delete]
    exact ⟨congrArg collections same, (congrArg isClosed same).trans closed, fun _ => refused⟩
  | select query cursor =>
    rw [step_select service query cursor (sound.rowsOf query.collection).distinct]
    refine ⟨rfl, closed, fun needs => ?_⟩
    have more : cursor.exhausted = false := by simpa [Operation.needsOpen] using needs
    rw [closed]
    exact service.reads_refused query more store.madeKeys _
  | close => exact ⟨rfl, rfl, fun needs => by cases needs⟩
  | elapse milliseconds => exact ⟨rfl, closed, fun needs => by cases needs⟩

/-- A closed store is frozen. -/
theorem run_closed {service : Service} {store : Store} (sound : Sound service.settings store)
    (closed : store.isClosed = true) (operations : List Operation) :
    (service.run operations store).state.collections = store.collections ∧
      (service.run operations store).state.isClosed = true := by
  have kept := runSteps_preserves
    (fun state => Sound service.settings state ∧ state.collections = store.collections ∧ state.isClosed = true)
    (fun operation state holds =>
      have one := step_closed holds.1 holds.2.2 operation
      ⟨step_sound holds.1 operation, one.1.trans holds.2.1, one.2.1⟩)
    operations ⟨sound, rfl, closed⟩
  exact kept.2

/-- A step that fails has at most cleared expired rows away, which no later run can tell. A closed store refuses what
needs an open one, and stays as it is. -/
theorem failures_change_nothing (service : Service) (operations : List Operation) (start : Nat) :
    let store := (service.run operations { now := start }).state
    (∀ operation failure, (service.step operation store).1 = .error failure →
      let after := (service.step operation store).2
      (after = store ∨ ∃ collection, after = store.purged collection) ∧
        ∀ later, (service.run later after).answers = (service.run later store).answers) ∧
    ∀ later,
      let closed := (service.run (.close :: later) store).state
      closed.collections = store.collections ∧
        ∀ operation, (service.step operation closed).2.collections = closed.collections ∧
          (operation.needsOpen = true →
            service.Refuses operation closed.madeKeys (service.step operation closed).1) := by
  intro store
  have sound : Sound service.settings store := run_sound (.empty service.settings start) operations
  have agrees := (run_agrees (.empty service.settings start) (Agrees.empty start) operations).2
  refine ⟨fun operation failure failed => ⟨step_failed sound failed, ?_⟩, fun later => ?_⟩
  · exact run_after_failed sound agrees failed
  · have shut : Sound service.settings { store with isClosed := true } := step_sound sound .close
    have kept := run_closed shut rfl later
    refine ⟨kept.1, fun operation => ?_⟩
    have one := step_closed (run_sound shut later) kept.2 operation
    exact ⟨one.1, one.2.2⟩

/-- The update of a row that has expired clears it away, and a read gives what it gave before. -/
theorem failed_update_changes_nothing :
    let service : Service := { settings := {}, converter := {} }
    let entity : Entity := ⟨"c", [⟨"_id", .text "a"⟩]⟩
    let store := (service.run [.write (.insert (some 4)) entity, .elapse 5] {}).state
    let after := (service.step (.write .update entity) store).2
    store.collections = [⟨"c", [⟨"a", .text "a", [], 1, some 4⟩]⟩] ∧ after.collections = [⟨"c", []⟩] ∧
      (service.run [.select { collection := "c" } .start] after).answers =
        (service.run [.select { collection := "c" } .start] store).answers := by
  intro service entity store after
  have failed : (service.step (.write .update entity) store).1 =
      .error (absentRefusal "c" ⟨"a", .text "a", false⟩) := by
    simp only [service, entity, store]
    rfl
  obtain ⟨_, same⟩ := (failures_change_nothing service [.write (.insert (some 4)) entity, .elapse 5] 0).1
    (.write .update entity) _ failed
  refine ⟨?_, ?_, same [.select { collection := "c" } .start]⟩
  · simp only [service, entity, store]
    rfl
  · simp only [service, entity, store, after]
    rfl

end Service

end Polystore.Store
