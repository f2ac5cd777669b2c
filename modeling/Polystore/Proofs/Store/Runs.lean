import Polystore.Store.Connect
import Polystore.Proofs.Store.Writes

/-!
Runs of a store: operations of its clients, one after another, with time passing between them. The clones of
a connection share its store and its settings, so that what they do in turn is one run. A run goes on after an
operation that fails.
-/
namespace Polystore.Store

open Polystore.Action

/-- What a client asks of a connection, or the passing of time. -/
inductive Operation where
  /-- Inserts an entity, with a lifetime or for good, or updates it. -/
  | write (mode : WriteMode) (entity : Entity)
  | delete (query : DeleteQuery)
  | select (query : Query) (cursor : Cursor)
  | close
  | elapse (milliseconds : Nat)

/-- What an operation gives. -/
inductive Reply where
  | entity (entity : Entity)
  | count (number : Nat)
  | page (page : Page)
  | done

/-- What an operation gives, or why it fails. -/
abbrev Answer := Except Failure Reply

/-- What a run gives, operation by operation, and the state that it leaves. -/
structure Run (σ : Type) where
  answers : List Answer
  state : σ

/-- What an operation gives as a reply, and what it leaves. -/
def replying {α σ : Type} (reply : α → Reply) (ending : Except Failure α × σ) : Answer × σ :=
  (ending.1.map reply, ending.2)

@[simp] theorem isOk_replying {α σ : Type} (reply : α → Reply) (ending : Except Failure α × σ) :
    (replying reply ending).1.isOk = ending.1.isOk := by
  unfold replying
  cases ending.1 <;> rfl

/-- Takes one step after another. -/
def runSteps {σ : Type} (step : Operation → σ → Answer × σ) : List Operation → σ → Run σ
  | [], state => ⟨[], state⟩
  | operation :: rest, state =>
    let first := step operation state
    let others := runSteps step rest first.2
    ⟨first.1 :: others.answers, others.state⟩

/-- What every step preserves a run preserves. -/
theorem runSteps_preserves {σ : Type} {step : Operation → σ → Answer × σ} (invariant : σ → Prop)
    (steps : ∀ operation state, invariant state → invariant (step operation state).2)
    (operations : List Operation) {state : σ} (holds : invariant state) :
    invariant (runSteps step operations state).state := by
  induction operations generalizing state with
  | nil => exact holds
  | cons operation rest ih => exact ih (steps operation state holds)

/-- Where related states take steps to related states with the same answers, runs give the same answers. -/
theorem runSteps_simulates {σ τ : Type} {step : Operation → σ → Answer × σ}
    {step' : Operation → τ → Answer × τ} (related : σ → τ → Prop)
    (steps : ∀ operation state state', related state state' →
      (step operation state).1 = (step' operation state').1 ∧
        related (step operation state).2 (step' operation state').2)
    (operations : List Operation) {state : σ} {state' : τ} (start : related state state') :
    (runSteps step operations state).answers = (runSteps step' operations state').answers ∧
      related (runSteps step operations state).state (runSteps step' operations state').state := by
  induction operations generalizing state state' with
  | nil => exact ⟨rfl, start⟩
  | cons operation rest ih =>
    obtain ⟨same, next⟩ := steps operation state state' start
    obtain ⟨others, last⟩ := ih next
    refine ⟨?_, last⟩
    simp only [runSteps, same, others]

namespace Service

/-- Performs an operation over the connection of a service. -/
def perform (service : Service) : Operation → Action Failure Store Reply
  | .write (.insert none) entity => do return .entity (← service.connection.insert entity)
  | .write (.insert (some lifetime)) entity => do
    return .entity (← service.connection.insertExpiring entity lifetime)
  | .write .update entity => do return .entity (← service.connection.update entity)
  | .delete query => do return .count (← service.connection.delete query)
  | .select query cursor => do return .page (← service.connection.select query cursor)
  | .close => do
    service.connection.close
    return .done
  | .elapse milliseconds => do
    Action.modify (·.elapse milliseconds)
    return .done

/-- One step of a run. -/
def step (service : Service) (operation : Operation) (store : Store) : Answer × Store :=
  effect (service.perform operation) store

/-- Performs operations one after another. -/
def run (service : Service) (operations : List Operation) (store : Store) : Run Store :=
  runSteps service.step operations store

private theorem effect_reply {α : Type} (action : Action Failure Store α) (reply : α → Reply) (store : Store) :
    effect (do return reply (← action)) store = replying reply (effect action store) := by
  simp only [effect_bind]
  cases effect action store with
  | mk result after => cases result <;> rfl

theorem step_write (service : Service) (mode : WriteMode) (entity : Entity) (store : Store) :
    service.step (.write mode entity) store = replying .entity (effect (service.write mode entity) store) := by
  cases mode with
  | update => exact effect_reply _ _ _
  | insert lifetime => cases lifetime <;> exact effect_reply _ _ _

/-- A write that gives an entity ends by giving it. -/
theorem of_step_write_eq_ok {service : Service} {mode : WriteMode} {entity written : Entity} {store after : Store}
    (gives : service.step (.write mode entity) store = (.ok (.entity written), after)) :
    WriteEnd service mode entity store (.ok written, after) := by
  have ends := write_end service mode entity store
  rw [step_write] at gives
  generalize effect (service.write mode entity) store = ending at ends gives
  obtain ⟨result, left⟩ := ending
  cases result with
  | error failure => cases gives
  | ok given =>
    cases gives
    exact ends

theorem step_delete (service : Service) (query : DeleteQuery) (store : Store) :
    service.step (.delete query) store = replying .count (effect (service.delete query) store) :=
  effect_reply _ _ _

theorem step_select (service : Service) (query : Query) (cursor : Cursor) {store : Store}
    (distinct : DistinctKeys (store.rowsOf query.collection)) :
    service.step (.select query cursor) store =
      replying .page
        (service.reads query cursor store.isClosed (live (store.rowsOf query.collection) store.now), store) := by
  have read := service.effect_select query cursor distinct
  have reply := effect_reply (service.select query cursor) .page store
  rw [read] at reply
  exact reply

end Service

end Polystore.Store
