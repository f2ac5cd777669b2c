import Polystore.Conformance.Check

/-!
Following the cursors of a read gives every entity once, a read that is over stays over, and sorts, limits
and projections hold across pages.
-/
namespace Polystore.Conformance

variable {σ : Type}

def twoDigits (n : Nat) : String := (if n < 10 then "0" else "") ++ toString n

def rowEntity (n : Nat) : Entity := ⟨"paging_rows", [⟨key, .text ("row-" ++ twoDigits n)⟩, ⟨"n", int32 n⟩]⟩

/-- Adds numbers to those seen, each of which must be new. -/
def addNew (seen : List Int) : List Int → Check σ (List Int)
  | [] => pure seen
  | n :: rest => do
    demandThat ("The row " ++ toString n ++ " was returned twice") (!seen.contains n)
    addNew (seen ++ [n]) rest

/-- Follows a read to its end, which must come within so many pages. Gives the numbers and the last cursor. -/
def followPages (subject : Subject σ) (query : Query) (seen : List Int) (cursor : Cursor) :
    Nat → Check σ (List Int × Cursor)
  | 0 => breach (.stated "25 rows in pages of 10 take at most 3 pages")
  | left + 1 => do
    let page ← succeed "Failed to read a page of paging_rows" (subject.connection.select query cursor)
    if left = 0 then breach (.stated "25 rows in pages of 10 take at most 3 pages")
    let seen ← addNew seen (← numbersOf page.entities)
    if page.cursor.exhausted then return (seen, page.cursor)
    followPages subject query seen page.cursor left

/-- Demands that a page is empty and the last. -/
def demandOver (page : Page) : Check σ Unit := do
  demand page.entities.isEmpty
  demand page.cursor.exhausted

/-- Demands that a sorted query gives numbers in order. -/
def demandNumbers (subject : Subject σ) (message : String) (query : Query) (expected : List Int) :
    Check σ Unit := do
  demand ((← numbersOf (← readAll subject message query)) = expected)

def paging (subject : Subject σ) : Check σ Unit := do
  let rows : Query := { collection := "paging_rows" }
  let ascending : Query := { rows with sorts := [⟨"n", .ascending⟩] }
  let select (message : String) (query : Query) (cursor : Cursor) : Check σ Page :=
    succeed message (subject.connection.select query cursor)
  let _ ← clear subject "paging_rows"
  insertAll subject "Failed to insert into paging_rows" ((List.range 25).map rowEntity)
  let paged : Query := { rows with fetchSize := some 10 }
  let (seen, cursor) ← followPages subject paged [] .start 4
  demand (seen.mergeSort = upTo 25)
  demandOver (← select "Failed to read past the end" paged cursor)
  demandOver (← select "Failed to read past the end" paged cursor)
  let first ← select "Failed to start the first read" paged .start
  let second ← select "Failed to start the second read" paged .start
  demand ((← numbersOf first.entities) = (← numbersOf second.entities))
  demandNumbers subject "Failed to select sorted paging_rows" { ascending with fetchSize := some 7 } (upTo 25)
  demandNumbers subject "Failed to select the last paging_rows"
    { rows with sorts := [⟨"n", .descending⟩], limit := some 5 } [24, 23, 22, 21, 20]
  demandNumbers subject "Failed to skip paging_rows" { ascending with skip := some 20, fetchSize := some 2 }
    [20, 21, 22, 23, 24]
  let projected ← readOne subject "Failed to project paging_rows"
    { ascending with limit := some 1, projection := ["n"] }
  demand (projected.find? "n").isSome
  demandOver (← select "Failed to read an empty collection" { collection := "paging_never_written" } .start)

end Polystore.Conformance
