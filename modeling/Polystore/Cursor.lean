import Polystore.Entity
import Polystore.Text.Hex

/-!
Positions of paged reads. A fresh cursor starts a read, each page brings the cursor of the next one, and an
exhausted cursor ends it.
-/
namespace Polystore

/-- A position that a back end handed out. -/
structure PagingToken where
  bytes : List UInt8
deriving DecidableEq, Repr

def PagingToken.debug (token : PagingToken) : String := "PagingState(" ++ Text.Hex.encode token.bytes ++ ")"

/-- The position of a paged read. -/
structure Cursor where
  token : Option PagingToken
  exhausted : Bool
deriving DecidableEq, Repr

/-- How far a read is. -/
inductive Progress where
  | fresh | inProgress | exhausted
deriving DecidableEq, Repr

def Progress.label : Progress → String
  | .fresh => "Fresh"
  | .inProgress => "InProgress"
  | .exhausted => "Exhausted"

namespace Cursor

def start : Cursor := ⟨none, false⟩

def finished : Cursor := ⟨none, true⟩

def progress (cursor : Cursor) : Progress :=
  if cursor.exhausted then .exhausted else if cursor.token.isSome then .inProgress else .fresh

def debug (cursor : Cursor) : String :=
  "Cursor \x7b paging_state: " ++ cursor.token.elim "None" (fun token => "Some(" ++ token.debug ++ ")") ++
    ", exhausted: " ++ (if cursor.exhausted then "true" else "false") ++ " \x7d"

end Cursor

/-- What one read gives: entities, and the cursor to go on from. -/
structure Page where
  entities : List Entity
  cursor : Cursor

def Page.empty (cursor : Cursor) : Page := ⟨[], cursor⟩

end Polystore
