import Polystore.Connection

/-!
Connections that write down each call with its result, and that answer some calls wrongly: the call is made,
and a fault that belongs to its sort replaces what comes back.
-/
namespace Polystore.Tracing

/-- A call with its result. -/
inductive Call where
  | insert (entity : Entity) (result : Except Failure Entity)
  | insertExpiring (entity : Entity) (lifetime : Nat) (result : Except Failure Entity)
  | update (entity : Entity) (result : Except Failure Entity)
  | delete (query : DeleteQuery) (result : Except Failure Nat)
  | select (query : Query) (cursor : Cursor) (result : Except Failure Page)

/-- A wrong answer. -/
inductive Slip where
  /-- Any call fails. -/
  | error
  /-- A write gives back what it was given. -/
  | echo
  /-- A write with a lifetime is made without. -/
  | forever
  /-- A removal counts one more. -/
  | more
  /-- A read finds nothing. -/
  | empty
  /-- A read leaves out the last entity. -/
  | short
  /-- A read gives the last entity twice. -/
  | double
  /-- A read gives the entities backwards. -/
  | reverse
  /-- A read says that it is over. -/
  | stop
  /-- A read says that it has not begun. -/
  | restart
  /-- A read gives texts in place of values. -/
  | flatten
deriving DecidableEq, Repr

def Slip.label : Slip → String
  | .error => "error"
  | .echo => "echo"
  | .forever => "forever"
  | .more => "more"
  | .empty => "empty"
  | .short => "short"
  | .double => "double"
  | .reverse => "reverse"
  | .stop => "stop"
  | .restart => "restart"
  | .flatten => "flatten"

def Slip.values : List Slip :=
  [.error, .echo, .forever, .more, .empty, .short, .double, .reverse, .stop, .restart, .flatten]

def Slip.ofLabel? (label : String) : Option Slip := values.find? fun slip => slip.label = label

/-- The slips of calls, by the numbers of the calls. -/
abbrev Slips := List (Nat × Slip)

/-- More pages than a read of at most 32 entities can have, each slip starting it anew. -/
def budget (slips : Slips) : Nat := 33 * (slips.length + 1)

def at? (slips : Slips) (number : Nat) : List Slip :=
  (slips.filter fun entry => entry.1 = number).map Prod.snd

/-- The calls so far, and the state behind the connection. -/
structure Traced (σ : Type) where
  state : σ
  calls : List Call := []

def injected : Failure := .ofFault (.execution "traced" "injected")

def Slip.onWrite (entity : Entity) (result : Except Failure Entity) : Slip → Except Failure Entity
  | .error => .error injected
  | .echo => .ok entity
  | _ => result

def Slip.onDelete (result : Except Failure Nat) : Slip → Except Failure Nat
  | .error => .error injected
  | .more => result.map (· + 1)
  | _ => result

/-- The text of a value in place of the value. -/
def flatValue (value : Value) : Value := value.toText?.elim .null .text

def flat (entity : Entity) : Entity := { entity with fields := entity.fields.map (Named.map flatValue) }

def Slip.onPage (page : Page) : Slip → Page
  | .short => { page with entities := page.entities.dropLast }
  | .double => { page with entities := page.entities ++ page.entities.getLast?.toList }
  | .reverse => { page with entities := page.entities.reverse }
  | .stop => { page with cursor := .finished }
  | .restart => { page with cursor := .start }
  | .flatten => { page with entities := page.entities.map flat }
  | _ => page

def Slip.onSelect (result : Except Failure Page) (slip : Slip) : Except Failure Page :=
  match slip with
  | .error => .error injected
  | .empty => .ok (.empty .finished)
  | slip => result.map slip.onPage

variable {σ α : Type}

/-- Makes a call, lets its slips change the result, and writes both down. -/
def record (slips : Slips) (call : List Slip → Action Failure σ α)
    (change : Except Failure α → Slip → Except Failure α) (note : Except Failure α → Call) :
    Action Failure (Traced σ) α := do
  let mine := at? slips (← Action.state).calls.length
  let answer ← ((call mine).zoom Traced.state fun state traced => { traced with state := state }).attempt
  let result := mine.foldl change answer
  Action.modify fun traced => { traced with calls := traced.calls ++ [note result] }
  Action.ofResult result

/-- A connection with slips, whose calls are written down. -/
def connection (slips : Slips) (inner : Connection σ) : Connection (Traced σ) where
  insert entity := record slips (fun _ => inner.insert entity) (Slip.onWrite entity) (.insert entity)
  insertExpiring entity lifetime :=
    record slips
      (fun mine => if mine.contains .forever then inner.insert entity else inner.insertExpiring entity lifetime)
      (Slip.onWrite entity) (.insertExpiring entity lifetime)
  update entity := record slips (fun _ => inner.update entity) (Slip.onWrite entity) (.update entity)
  delete query := record slips (fun _ => inner.delete query) Slip.onDelete (.delete query)
  select query cursor := record slips (fun _ => inner.select query cursor) Slip.onSelect (.select query cursor)
  close := inner.close.zoom Traced.state fun state traced => { traced with state := state }

end Polystore.Tracing
