import Polystore.Failure

/-!
Computations on a state that may fail and that leave log records. The state and the records of a failed
computation are kept: whoever calls it sees what it had done before it failed.
-/
namespace Polystore

/-- How serious a log record is. -/
inductive Level where
  | error | warn | debug | trace
deriving DecidableEq, Repr

def Level.text : Level → String
  | .error => "ERROR"
  | .warn => "WARN"
  | .debug => "DEBUG"
  | .trace => "TRACE"

/-- Which part of the library a log record comes from. -/
inductive Topic where
  | connectUrl | predicate | conversion | executor | storeConnection | storeSession
deriving DecidableEq, Repr

/-- A log record. -/
structure LogRecord where
  level : Level
  topic : Topic
  message : String
deriving DecidableEq, Repr

/-- What a computation leaves behind. -/
structure Outcome (ε σ α : Type) where
  result : Except ε α
  state : σ
  log : List LogRecord

/-- A computation on states of type `σ` with failures of type `ε`. -/
def Action (ε σ α : Type) : Type := σ → Outcome ε σ α

namespace Action

variable {ε ε' σ α β γ : Type}

def run (action : Action ε σ α) (state : σ) : Outcome ε σ α := action state

/-- Gives a value and leaves the state as it is. -/
protected def pure (value : α) : Action ε σ α := fun state => ⟨.ok value, state, []⟩

/-- Runs a second computation on what the first one gives; a failure of the first ends both. -/
protected def bind (first : Action ε σ α) (next : α → Action ε σ β) : Action ε σ β := fun state =>
  let before := first state
  match before.result with
  | .ok value =>
    let after := next value before.state
    ⟨after.result, after.state, before.log ++ after.log⟩
  | .error error => ⟨.error error, before.state, before.log⟩

instance : Monad (Action ε σ) where
  pure := Action.pure
  bind := Action.bind

def fail (error : ε) : Action ε σ α := fun state => ⟨.error error, state, []⟩

/-- Gives the value of a result, or fails as it does. -/
def ofResult (result : Except ε α) : Action ε σ α := fun state => ⟨result, state, []⟩

def log (level : Level) (topic : Topic) (message : String) : Action ε σ Unit := fun state =>
  ⟨.ok (), state, [⟨level, topic, message⟩]⟩

def state : Action ε σ σ := fun state => ⟨.ok state, state, []⟩

def modify (change : σ → σ) : Action ε σ Unit := fun state => ⟨.ok (), change state, []⟩

def mapError (change : ε → ε') (action : Action ε σ α) : Action ε' σ α := fun state =>
  let outcome := action state
  ⟨outcome.result.mapError change, outcome.state, outcome.log⟩

/-- Gives the result of a computation, failures included, and does not fail. -/
def attempt (action : Action ε σ α) : Action ε' σ (Except ε α) := fun state =>
  let outcome := action state
  ⟨.ok outcome.result, outcome.state, outcome.log⟩

/-- Runs a computation on a state of its own, which is dropped afterwards. -/
def alone {τ : Type} (initial : τ) (action : Action ε τ α) : Action ε σ α := fun current =>
  let outcome := action initial
  ⟨outcome.result, current, outcome.log⟩

/-- Runs a computation on a part of a larger state. -/
def zoom {τ : Type} (part : τ → σ) (put : σ → τ → τ) (action : Action ε σ α) : Action ε τ α := fun whole =>
  let outcome := action (part whole)
  ⟨outcome.result, put outcome.state whole, outcome.log⟩

@[simp] theorem pure_apply (value : α) (state : σ) :
    (pure value : Action ε σ α) state = ⟨.ok value, state, []⟩ := rfl

theorem bind_apply (first : Action ε σ α) (next : α → Action ε σ β) (state : σ) :
    (first >>= next) state =
      match (first state).result with
      | .ok value =>
        ⟨(next value (first state).state).result, (next value (first state).state).state,
          (first state).log ++ (next value (first state).state).log⟩
      | .error error => ⟨.error error, (first state).state, (first state).log⟩ := rfl

theorem bind_of_ok {first : Action ε σ α} {next : α → Action ε σ β} {state : σ} {value : α}
    (done : (first state).result = .ok value) :
    (first >>= next) state =
      ⟨(next value (first state).state).result, (next value (first state).state).state,
        (first state).log ++ (next value (first state).state).log⟩ := by
  rw [bind_apply, done]

theorem bind_of_error {first : Action ε σ α} {next : α → Action ε σ β} {state : σ} {error : ε}
    (failed : (first state).result = .error error) :
    (first >>= next) state = ⟨.error error, (first state).state, (first state).log⟩ := by
  rw [bind_apply, failed]

@[simp] theorem fail_apply (error : ε) (state : σ) :
    (fail error : Action ε σ α) state = ⟨.error error, state, []⟩ := rfl

@[simp] theorem ofResult_apply (result : Except ε α) (state : σ) :
    (ofResult result : Action ε σ α) state = ⟨result, state, []⟩ := rfl

@[simp] theorem log_apply (level : Level) (topic : Topic) (message : String) (state : σ) :
    (log level topic message : Action ε σ Unit) state = ⟨.ok (), state, [⟨level, topic, message⟩]⟩ := rfl

@[simp] theorem state_apply (current : σ) :
    (state : Action ε σ σ) current = ⟨.ok current, current, []⟩ := rfl

@[simp] theorem modify_apply (change : σ → σ) (current : σ) :
    (modify change : Action ε σ Unit) current = ⟨.ok (), change current, []⟩ := rfl

/-- What a computation gives and the state that it leaves, its log left out. -/
def effect (action : Action ε σ α) (state : σ) : Except ε α × σ :=
  ((action state).result, (action state).state)

theorem effect_bind (first : Action ε σ α) (next : α → Action ε σ β) (state : σ) :
    effect (first >>= next) state =
      match effect first state with
      | (.ok value, after) => effect (next value) after
      | (.error error, after) => (.error error, after) := by
  unfold effect
  cases done : (first state).result with
  | ok value => rw [bind_of_ok done]
  | error error => rw [bind_of_error done]

theorem effect_bind_assoc (first : Action ε σ α) (second : α → Action ε σ β) (third : β → Action ε σ γ) (state : σ) :
    effect (first >>= second >>= third) state = effect (first >>= fun value => second value >>= third) state := by
  rw [effect_bind, effect_bind, effect_bind]
  rcases effect first state with ⟨_ | value, after⟩
  · rfl
  · exact (effect_bind (second value) third after).symm

/-- What a computation gives behind another one, of which is known what it gives and where it leaves the state. -/
theorem result_bind {first : Action ε σ α} {state after : σ} {result : Except ε α}
    (runs : effect first state = (result, after)) (next : α → Action ε σ β) :
    (effect (first >>= next) state).1 = result >>= fun value => (effect (next value) after).1 := by
  rw [effect_bind, runs]
  cases result <;> rfl

/-- A computation gives something only where each of its parts does. -/
theorem of_effect_bind_ok {first : Action ε σ α} {next : α → Action ε σ β} {state after : σ} {result : β}
    (gives : effect (first >>= next) state = (.ok result, after)) :
    ∃ value between, effect first state = (.ok value, between) ∧
      effect (next value) between = (.ok result, after) := by
  rw [effect_bind] at gives
  cases started : effect first state with
  | mk given between =>
    rw [started] at gives
    cases given with
    | error error => cases gives
    | ok value => exact ⟨value, between, rfl, gives⟩

@[simp] theorem effect_pure (value : α) (state : σ) :
    effect (pure value : Action ε σ α) state = (.ok value, state) := rfl

@[simp] theorem effect_fail (error : ε) (state : σ) :
    effect (fail error : Action ε σ α) state = (.error error, state) := rfl

@[simp] theorem effect_ofResult (result : Except ε α) (state : σ) :
    effect (ofResult result) state = (result, state) := rfl

@[simp] theorem effect_log (level : Level) (topic : Topic) (message : String) (state : σ) :
    effect (log level topic message : Action ε σ Unit) state = (.ok (), state) := rfl

@[simp] theorem effect_state (current : σ) :
    effect (state : Action ε σ σ) current = (.ok current, current) := rfl

@[simp] theorem effect_modify (change : σ → σ) (current : σ) :
    effect (modify change : Action ε σ Unit) current = (.ok (), change current) := rfl

@[simp] theorem effect_mapError (change : ε → ε') (action : Action ε σ α) (state : σ) :
    effect (mapError change action) state =
      ((effect action state).1.mapError change, (effect action state).2) := rfl

@[simp] theorem effect_attempt (action : Action ε σ α) (state : σ) :
    effect (attempt action : Action ε' σ (Except ε α)) state =
      (.ok (effect action state).1, (effect action state).2) := rfl

@[simp] theorem effect_alone {τ : Type} (initial : τ) (action : Action ε τ α) (state : σ) :
    effect (alone initial action : Action ε σ α) state = ((effect action initial).1, state) := rfl

end Action

end Polystore
