import Polystore.Store.Basic

/-!
Reading pages of a store. A statement selects rows, sorts them, drops and takes some, and a page is the piece
of that list from an offset on; the offset of the next page is its token.
-/
namespace Polystore.Store

/-- The greatest offset, and the greatest number of rows that a read takes: what eight bytes can count. -/
def wordMax : Nat := UInt64.size - 1

/-- The token of an offset: eight bytes, the highest first. -/
def tokenOf (offset : Nat) : PagingToken :=
  ⟨[7, 6, 5, 4, 3, 2, 1, 0].map fun place => UInt8.ofNat (offset >>> (8 * place))⟩

/-- The offset of a token, of which every one of eight bytes is one. -/
def offsetOf (token : PagingToken) : Except Failure Nat :=
  if token.bytes.length = 8 then .ok (token.bytes.foldl (fun offset byte => offset * 256 + byte.toNat) 0)
  else .error (.ofNote ("Malformed paging state " ++ token.debug ++ ", expected 8 bytes"))

/-- The offset of a token that may be absent. -/
def startOf : Option PagingToken → Except Failure Nat
  | none => .ok 0
  | some token => offsetOf token

/-- The order of values in a column: the missing ones, the nulls, the others. Values that cannot be compared
are ties. -/
def compareCells (a b : Option Value) : Ordering :=
  match a, b with
  | none, none => .eq
  | none, some _ => .lt
  | some _, none => .gt
  | some a, some b =>
    match a.isNull, b.isNull with
    | true, true => .eq
    | true, false => .lt
    | false, true => .gt
    | false, false => (a.compare? b).getD .eq

def cell (row : Row) (name : String) : Option Value := (Named.find? row name).map Native.opaqueValue

/-- The order of two rows by the columns of a sort, the first of them first. -/
def compareRows (sorts : List SortKey) (a b : Row) : Ordering :=
  match sorts with
  | [] => .eq
  | sort :: rest =>
    let order := compareCells (cell a sort.name) (cell b sort.name)
    (match sort.direction with
      | .ascending => order
      | .descending => order.swap).then (compareRows rest a b)

/-- Puts an item behind those that are not greater, into a list whose last comes first. -/
def place {α : Type} (compare : α → α → Ordering) (item : α) : List α → List α
  | [] => [item]
  | last :: rest => if compare item last = .lt then last :: place compare item rest else item :: last :: rest

/-- Sorts a list; ties keep their order. -/
def sorted {α : Type} (compare : α → α → Ordering) (items : List α) : List α :=
  (items.foldl (fun placed item => place compare item placed) []).reverse

namespace Service

/-- Keeps the named fields of a row, and always the key and the revision. Without names it keeps all. -/
def project (service : Service) (names : List String) (row : Row) : Row :=
  if names.isEmpty then row
  else row.filter fun field =>
    field.name = service.settings.key || field.name = service.settings.revision || names.contains field.name

/-- What a projected row keeps, in the order of the row. -/
theorem project_eq_filter (service : Service) (names : List String) (row : Row) :
    service.project names row = row.filter fun field =>
      names = [] ∨ field.name ∈ service.settings.key :: service.settings.revision :: names := by
  unfold project
  split
  · rename_i none
    refine (List.filter_eq_self.mpr fun field _ => ?_).symm
    simp [List.isEmpty_iff.mp none]
  · rename_i some
    have named : names ≠ [] := fun none => some (List.isEmpty_iff.mpr none)
    refine List.filter_congr fun field _ => ?_
    simp [named, Bool.or_assoc]

/-- The rows of a statement among those that its predicate selects: sorted, some dropped, some taken, and of
each the fields asked for. -/
def arrange (service : Service) (statement : Statement Predicate) (rows : List Row) : List Row :=
  let rows := (sorted (compareRows statement.sorts) rows).drop (statement.skip.getD 0)
  (rows.take (min (statement.limit.getD wordMax) wordMax)).map (service.project statement.projection)

/-- All rows that answer a statement, whatever its token. -/
def answer (service : Service) (store : Store) (statement : Statement Predicate) : List Row :=
  service.arrange statement
    ((service.selected (store.rowsOf statement.collection) statement.predicate store.now).map fun entry =>
      service.view entry.1)

/-- How many rows make a page of a statement. -/
def pageSize (service : Service) (statement : Statement Predicate) : Nat :=
  max (statement.fetchSize.getD service.settings.fetchSize) 1

def execute (service : Service) (statement : Statement Predicate) : Action Failure Store Response := do
  let store ← Action.state
  if store.isClosed then Action.fail (.ofNote service.closedText)
  let offset ← Action.ofResult (startOf statement.token)
  let rows := service.answer store statement
  let stop := min (min (offset + service.pageSize statement) wordMax) rows.length
  let token := if stop < rows.length then some (tokenOf stop) else none
  Action.log .trace .storeSession
    ("Read " ++ toString (stop - offset) ++ " rows from `" ++ statement.collection ++ "` starting at " ++
      toString offset)
  return { rows := (rows.take stop).drop offset, token := token, exhausted := token.isNone }

def session (service : Service) : Session Store Predicate := ⟨service.builder, service.execute⟩

def executor (service : Service) : Executor Store Predicate :=
  ⟨service.session, service.converter, service.settings.paging⟩

/-- More pages than a read of a collection can have. -/
def budget (store : Store) (collection : String) : Nat := (store.rowsOf collection).length + 1

def select (service : Service) (query : Query) (cursor : Cursor) : Action Failure Store Page := do
  service.executor.select (budget (← Action.state) query.collection) query cursor

def selectAll (service : Service) (query : Query) : Action Failure Store (List Entity) := do
  return (← service.executor.selectAll (budget (← Action.state) query.collection) query).entities

end Service

end Polystore.Store
