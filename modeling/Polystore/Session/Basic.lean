import Polystore.Cursor
import Polystore.Native
import Polystore.Query
import Polystore.Predicate.Builder

/-!
Sessions: native clients of back ends. A session translates conditions with its builder and answers
statements; its state is whatever the back end remembers.
-/
namespace Polystore

/-- A query whose condition is translated, and the place from which to answer it. -/
structure Statement (P : Type) where
  collection : String
  predicate : Option P
  sorts : List SortKey
  limit : Option Nat
  skip : Option Nat
  projection : List String
  consistency : Option Consistency
  fetchSize : Option Nat
  token : Option PagingToken

/-- The statement of a query, with a translated condition. -/
def Query.statement {P : Type} (query : Query) (predicate : Option P) (token : Option PagingToken) :
    Statement P where
  collection := query.collection
  predicate := predicate
  sorts := query.sorts
  limit := query.limit
  skip := query.skip
  projection := query.projection
  consistency := query.consistency
  fetchSize := query.fetchSize
  token := token

/-- The rows that answer a statement. -/
structure Response where
  /-- The buffered rows. -/
  rows : List Row
  /-- How many of them can be read before the back end is asked again, when that is not all. -/
  boundary : Option Nat := none
  /-- Where to go on behind the buffered rows. -/
  token : Option PagingToken
  /-- Whether there are no rows behind the buffered ones. -/
  exhausted : Bool

namespace Response

/-- The rows of one page: up to the boundary, and at least one if there is one. -/
def page (response : Response) : List Row :=
  match response.boundary with
  | none => response.rows
  | some boundary => response.rows.take (max boundary 1)

/-- The cursor behind a response. A read ends where there is no token to go on with. -/
def next (response : Response) : Cursor :=
  if response.exhausted || response.token.isNone then .finished else ⟨response.token, false⟩

/-- Whether a response says that there are more rows, and not where. -/
def isCutOff (response : Response) : Bool := !response.exhausted && response.token.isNone

end Response

/-- A native client with states of type `σ` and predicates of type `P`. -/
structure Session (σ P : Type) where
  builder : PredicateBuilder P
  execute : Statement P → Action Failure σ Response

end Polystore
