import Polystore.Converter
import Polystore.Session.Basic

/-!
The executor reads the entities of a query from a session, page by page. It keeps nothing between two calls:
the position of a read is the cursor that goes in and comes back with the page. Reading all pages in one call
and following the cursors of single pages are the same walk, bounded by a number of native calls; a walk that
reaches its bound gives what it has read and the cursor it has reached.
-/
namespace Polystore

/-- How much one read takes. -/
inductive PagingMode where
  /-- One page. -/
  | pagingState
  /-- All pages. -/
  | drain
deriving DecidableEq, Repr

def PagingMode.label : PagingMode → String
  | .pagingState => "PagingState"
  | .drain => "Default"

def PagingMode.ofName (name : String) : Except Failure PagingMode :=
  if name = "paging-state" then .ok .pagingState
  else if name = "default" then .ok .drain
  else .error (unknownName "paging mode" name "`paging-state` or `default`")

/-- Reads pages one after another, each from the cursor of the one before, until a cursor is exhausted or the
budget of pages is spent. -/
def follow {ε σ : Type} (read : Cursor → Action ε σ Page) : Nat → Cursor → Action ε σ Page
  | 0, cursor => pure (.empty cursor)
  | budget + 1, cursor => do
    let page ← read cursor
    if page.cursor.exhausted then return page
    let rest ← follow read budget page.cursor
    return ⟨page.entities ++ rest.entities, rest.cursor⟩

/-- Runs queries against a session. -/
structure Executor (σ P : Type) where
  session : Session σ P
  converter : Converter
  mode : PagingMode := .pagingState

namespace Executor

variable {σ P : Type}

/-- The failure of a native call, with its kind and the collection around it. -/
def executionFailure (executor : Executor σ P) (collection : String) (cause : Failure) : Failure :=
  (cause.under (.execution executor.session.builder.name cause.text)).during
    ("While reading from `" ++ collection ++ "`")

def call (executor : Executor σ P) (statement : Statement P) : Action Failure σ Response := do
  match ← (executor.session.execute statement).attempt with
  | .ok response => return response
  | .error cause =>
    let failure := executor.executionFailure statement.collection cause
    Action.log .error .executor failure.text
    Action.fail failure

/-- The entities of a response, and the cursor behind it. -/
def pageOf (executor : Executor σ P) (query : Query) (response : Response) : Page :=
  ⟨response.page.map fun row => executor.converter.entityOf row query.collection, response.next⟩

/-- Reads the page behind a cursor with one native call. -/
def nativePage (executor : Executor σ P) (query : Query) (predicate : Option P) (cursor : Cursor) :
    Action Failure σ Page := do
  let response ← executor.call (query.statement predicate cursor.token)
  if response.isCutOff then
    Action.log .warn .executor
      ("The result of `" ++ query.collection ++ "` has more rows but no paging state, the read stops here")
  return executor.pageOf query response

/-- Reads behind a cursor: one page, or all pages with at most so many native calls. An exhausted cursor
gives an empty page without any. -/
def select (executor : Executor σ P) (budget : Nat) (query : Query) (cursor : Cursor) :
    Action Failure σ Page := do
  if cursor.exhausted then return .empty cursor
  let _ ← Action.ofResult (requireCollection query.collection)
  let predicate ← executor.session.builder.predicateOf? query.condition
  match executor.mode with
  | .pagingState => executor.nativePage query predicate cursor
  | .drain => follow (executor.nativePage query predicate) budget cursor

/-- Reads from the start to the end, with at most so many reads. -/
def selectAll (executor : Executor σ P) (budget : Nat) (query : Query) : Action Failure σ Page :=
  follow (executor.select budget query) budget .start

/-- The predicate of a removal, checked as that of a read. -/
def deletePredicate (executor : Executor σ P) (query : DeleteQuery) : Action Failure σ (Option P) := do
  let _ ← Action.ofResult (requireCollection query.collection)
  executor.session.builder.predicateOf? query.condition

end Executor

end Polystore
