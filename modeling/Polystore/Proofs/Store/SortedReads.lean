import Polystore.Proofs.Store.RowOrder
import Polystore.Proofs.Store.Shown
import Polystore.Proofs.Value.Families

/-!
Sorted reads of columns whose values are of one family each. The matching rows come in the one order in which a row
stands before those that it precedes, and before those that it ties with and that it was picked before.
-/
namespace Polystore.Store

/-- A cell that comes before another: missing fields first, then nulls, then the lesser values. -/
inductive CellPrecedes : Option Value → Option Value → Prop
  | missing (value : Value) : CellPrecedes none (some value)
  | null {a b : Value} (isNull : a.isNull = true) (present : b.isNull = false) : CellPrecedes (some a) (some b)
  | value {a b : Value} (less : a.Less b) : CellPrecedes (some a) (some b)

/-- Cells that no column puts in order. -/
inductive CellTies : Option Value → Option Value → Prop
  | missing : CellTies none none
  | nulls {a b : Value} (nullA : a.isNull = true) (nullB : b.isNull = true) : CellTies (some a) (some b)
  | values {a b : Value} (ties : a.Ties b) : CellTies (some a) (some b)

/-- A row that comes before another by one column, in the direction of the sort. -/
def ColumnPrecedes (sort : SortKey) (a b : Row) : Prop :=
  match sort.direction with
  | .ascending => CellPrecedes (cell a sort.name) (cell b sort.name)
  | .descending => CellPrecedes (cell b sort.name) (cell a sort.name)

/-- A row that comes before another by the first column in which they do not tie. -/
inductive RowPrecedes : List SortKey → Row → Row → Prop
  | here {sort : SortKey} {rest : List SortKey} {a b : Row} (first : ColumnPrecedes sort a b) :
      RowPrecedes (sort :: rest) a b
  | later {sort : SortKey} {rest : List SortKey} {a b : Row} (ties : CellTies (cell a sort.name) (cell b sort.name))
      (next : RowPrecedes rest a b) : RowPrecedes (sort :: rest) a b

/-- Rows that tie in every column. -/
def RowTies (sorts : List SortKey) (a b : Row) : Prop := ∀ sort ∈ sorts, CellTies (cell a sort.name) (cell b sort.name)

/-- A column whose values, where there are any, are of one family: all integers, or all decimals, texts, truth values or
bytes. -/
def Homogeneous (rows : List Row) (name : String) : Prop :=
  ∃ family ∈ Family.plain, ∀ value ∈ column rows name, value.isNull = false → value.family? = some family

theorem CellPrecedes.compareCells {a b : Option Value} (precedes : CellPrecedes a b) : compareCells a b = .lt := by
  cases precedes with
  | missing => rfl
  | null isNull present => simp only [Store.compareCells, isNull, present]
  | value less =>
    have present := Value.isNull_of_compare? less.compare?
    simp only [Store.compareCells, present.1, present.2, less.compare?, Option.getD_some]

theorem CellTies.compareCells {a b : Option Value} (ties : CellTies a b) : compareCells a b = .eq := by
  cases ties with
  | missing => rfl
  | nulls nullA nullB => simp only [Store.compareCells, nullA, nullB]
  | values ties =>
    have present := Value.isNull_of_compare? ties.compare?
    simp only [Store.compareCells, present.1, present.2, ties.compare?, Option.getD_some]

theorem CellTies.symm {a b : Option Value} (ties : CellTies a b) : CellTies b a := by
  cases ties with
  | missing => exact .missing
  | nulls nullA nullB => exact .nulls nullB nullA
  | values ties => exact .values ties.symm

theorem ColumnPrecedes.compareColumn {sort : SortKey} {a b : Row} (precedes : ColumnPrecedes sort a b) :
    compareColumn sort a b = .lt := by
  unfold ColumnPrecedes at precedes
  unfold Store.compareColumn
  cases direction : sort.direction with
  | ascending =>
    rw [direction] at precedes
    exact precedes.compareCells
  | descending =>
    rw [direction] at precedes
    simp only
    rw [← compareCells_swap]
    exact precedes.compareCells

theorem CellTies.compareColumn {sort : SortKey} {a b : Row} (ties : CellTies (cell a sort.name) (cell b sort.name)) :
    compareColumn sort a b = .eq := by
  unfold Store.compareColumn
  rw [ties.compareCells]
  cases sort.direction with
  | ascending => rfl
  | descending => rfl

theorem RowPrecedes.compareRows {sorts : List SortKey} {a b : Row} (precedes : RowPrecedes sorts a b) :
    compareRows sorts a b = .lt := by
  induction precedes with
  | here first => rw [compareRows_cons, first.compareColumn, Ordering.lt_then]
  | later ties next ih => rw [compareRows_cons, ties.compareColumn, Ordering.eq_then, ih]

theorem RowTies.compareRows {sorts : List SortKey} {a b : Row} (ties : RowTies sorts a b) :
    compareRows sorts a b = .eq := by
  induction sorts with
  | nil => rfl
  | cons sort rest ih =>
    obtain ⟨first, others⟩ := List.forall_mem_cons.mp ties
    rw [compareRows_cons, first.compareColumn, Ordering.eq_then, ih others]

/-- Of two rows only one comes before the other, and only if they do not tie. -/
theorem RowPrecedes.not_back {sorts : List SortKey} {a b : Row} (precedes : RowPrecedes sorts a b) :
    ¬ (RowPrecedes sorts b a ∨ RowTies sorts b a) := by
  have greater : Store.compareRows sorts b a = .gt := by
    rw [compareRows_swap, precedes.compareRows]
    rfl
  rintro (behind | ties)
  · exact nomatch greater.symm.trans behind.compareRows
  · exact nomatch greater.symm.trans ties.compareRows

/-- In a column of one family, of two cells one comes before the other, or they tie. -/
theorem cell_precedes_or_ties {rows : List Row} {name : String} (homogeneous : Homogeneous rows name) {a b : Row}
    (inA : a ∈ rows) (inB : b ∈ rows) :
    CellPrecedes (cell a name) (cell b name) ∨ CellTies (cell a name) (cell b name) ∨
      CellPrecedes (cell b name) (cell a name) := by
  obtain ⟨family, plain, members⟩ := homogeneous
  have member {row : Row} {value : Value} (inRows : row ∈ rows) (held : cell row name = some value)
      (present : value.isNull = false) : value.family? = some family :=
    members value (List.mem_filterMap.mpr ⟨row, inRows, held⟩) present
  cases heldA : cell a name with
  | none =>
    cases cell b name with
    | none => exact .inr (.inl .missing)
    | some y => exact .inl (.missing y)
  | some x =>
    cases heldB : cell b name with
    | none => exact .inr (.inr (.missing x))
    | some y =>
      cases nullX : x.isNull with
      | true =>
        cases nullY : y.isNull with
        | true => exact .inr (.inl (.nulls nullX nullY))
        | false => exact .inl (.null nullX nullY)
      | false =>
        cases nullY : y.isNull with
        | true => exact .inr (.inr (.null nullY nullX))
        | false =>
          have compared := Value.less_or_ties_or_greater plain (member inA heldA nullX) (member inB heldB nullY)
          rcases compared with less | ties | greater
          · exact .inl (.value less)
          · exact .inr (.inl (.values ties))
          · exact .inr (.inr (.value greater))

theorem column_precedes_or_ties {rows : List Row} {sort : SortKey} (homogeneous : Homogeneous rows sort.name)
    {a b : Row} (inA : a ∈ rows) (inB : b ∈ rows) :
    ColumnPrecedes sort a b ∨ CellTies (cell a sort.name) (cell b sort.name) ∨ ColumnPrecedes sort b a := by
  have cells := cell_precedes_or_ties homogeneous inA inB
  unfold ColumnPrecedes
  cases sort.direction with
  | ascending => exact cells
  | descending =>
    rcases cells with before | ties | behind
    · exact .inr (.inr before)
    · exact .inr (.inl ties)
    · exact .inl behind

/-- Of rows with homogeneous columns one comes before the other, or they tie in every column. -/
theorem row_precedes_or_ties {rows : List Row} {sorts : List SortKey}
    (homogeneous : ∀ sort ∈ sorts, Homogeneous rows sort.name) {a b : Row} (inA : a ∈ rows) (inB : b ∈ rows) :
    RowPrecedes sorts a b ∨ RowTies sorts a b ∨ RowPrecedes sorts b a := by
  induction sorts with
  | nil => exact .inr (.inl (List.forall_mem_nil _))
  | cons sort rest ih =>
    obtain ⟨column, others⟩ := List.forall_mem_cons.mp homogeneous
    rcases column_precedes_or_ties column inA inB with before | ties | behind
    · exact .inl (.here before)
    · rcases ih others with next | all | next
      · exact .inl (.later ties next)
      · exact .inr (.inl (List.forall_mem_cons.mpr ⟨ties, all⟩))
      · exact .inr (.inr (.later ties.symm next))
    · exact .inr (.inr (.here behind))

/-- Homogeneous columns put rows in order. -/
theorem consistent_of_homogeneous {rows : List Row} {sorts : List SortKey}
    (homogeneous : ∀ sort ∈ sorts, Homogeneous rows sort.name) : Consistent (compareRows sorts) rows := by
  apply consistent_compareRows
  intro sort member
  obtain ⟨family, _, members⟩ := homogeneous sort member
  exact Value.not_muddled_of_family members

/-- The comparison of rows with homogeneous columns says which of them comes first. -/
theorem precedes_of_compareRows {rows : List Row} {sorts : List SortKey}
    (homogeneous : ∀ sort ∈ sorts, Homogeneous rows sort.name) {a b : Row} (inA : a ∈ rows) (inB : b ∈ rows)
    (less : compareRows sorts a b = .lt) : RowPrecedes sorts a b := by
  rcases row_precedes_or_ties homogeneous inA inB with before | ties | behind
  · exact before
  · rw [ties.compareRows] at less
    cases less
  · rw [compareRows_swap, behind.compareRows] at less
    cases less

theorem ties_of_compareRows {rows : List Row} {sorts : List SortKey}
    (homogeneous : ∀ sort ∈ sorts, Homogeneous rows sort.name) {a b : Row} (inA : a ∈ rows) (inB : b ∈ rows)
    (equal : compareRows sorts a b = .eq) : RowTies sorts a b := by
  rcases row_precedes_or_ties homogeneous inA inB with before | ties | behind
  · rw [before.compareRows] at equal
    cases equal
  · exact ties
  · rw [compareRows_swap, behind.compareRows] at equal
    cases equal

/-- Where nothing comes twice, of two items only one comes first. -/
theorem eq_of_sublist_both {α : Type} {items : List α} (nodup : items.Nodup) {a b : α}
    (one : [a, b].Sublist items) (other : [b, a].Sublist items) : a = b := by
  induction items with
  | nil => cases one
  | cons item rest ih =>
    obtain ⟨absent, nodup⟩ := List.nodup_cons.mp nodup
    rcases List.cons_sublist_cons'.mp one with later | ⟨rfl, behind⟩
    · rcases List.cons_sublist_cons'.mp other with laterToo | ⟨rfl, _⟩
      · exact ih nodup later laterToo
      · exact absurd (later.subset (by simp)) absent
    · rcases List.cons_sublist_cons'.mp other with later | ⟨same, _⟩
      · exact absurd (later.subset (by simp)) absent
      · exact same.symm

namespace Service

open Polystore.Action

/-- The picked rows, each before those that it precedes, and before those that it ties with and that were picked behind
it. -/
structure Arranges (service : Service) (sorts : List SortKey) (picked arranged : List StoredRow) : Prop where
  perm : arranged.Perm picked
  inOrder : arranged.Pairwise fun a b => RowPrecedes sorts (service.view a) (service.view b) ∨
    (RowTies sorts (service.view a) (service.view b) ∧ [a, b].Sublist picked)

/-- There is only one such order. -/
theorem Arranges.unique {service : Service} {sorts : List SortKey} {picked arranged other : List StoredRow}
    (distinct : DistinctKeys picked) (one : service.Arranges sorts picked arranged)
    (two : service.Arranges sorts picked other) : other = arranged := by
  refine List.Perm.eq_of_pairwise ?_ two.inOrder one.inOrder (two.perm.trans one.perm.symm)
  rintro a b _ _ (before | ⟨ties, first⟩) (behind | ⟨back, second⟩)
  · exact absurd (.inl behind) before.not_back
  · exact absurd (.inr back) before.not_back
  · exact absurd (.inr ties) behind.not_back
  · exact eq_of_sublist_both (List.Nodup.of_map _ distinct) first second

/-- The matching rows: live ones that the predicate picks, in the order of the store, or of the keys that a lookup asks
for, each key once. -/
theorem picked_in_order (service : Service) {rows : List StoredRow} (distinct : DistinctKeys rows)
    (predicate : Option Predicate) :
    (∀ row, row ∈ service.picked predicate rows ↔ row ∈ rows ∧ service.picks predicate row = true) ∧
      ((service.picked predicate rows).Sublist rows ∨ ∃ lookup, predicate = some (.keys lookup) ∧
        ((service.picked predicate rows).map StoredRow.key).Sublist lookup.keys.eraseDups) := by
  refine ⟨fun row => mem_picked_iff distinct, ?_⟩
  cases predicate with
  | none => exact .inl (List.Sublist.refl rows)
  | some predicate =>
    cases predicate with
    | filter filter => exact .inl List.filter_sublist
    | keys lookup => exact .inr ⟨lookup, rfl, keys_of_lookup _ rows⟩

/-- Sorting arranges rows with homogeneous columns. -/
theorem arranges_sorted {service : Service} {sorts : List SortKey} {picked : List StoredRow}
    (homogeneous : ∀ sort ∈ sorts, Homogeneous (picked.map service.view) sort.name) :
    service.Arranges sorts picked
      (sorted (fun a b => compareRows sorts (service.view a) (service.view b)) picked) where
  perm := sorted_perm _ _
  inOrder := by
    have consistent := (consistent_map_iff service.view).mp (consistent_of_homogeneous homogeneous)
    have seen {compare : StoredRow → StoredRow → Ordering} {row : StoredRow} (member : row ∈ sorted compare picked) :
        service.view row ∈ picked.map service.view :=
      List.mem_map_of_mem ((sorted_perm compare picked).mem_iff.mp member)
    refine (pairwise_sorted consistent).imp_of_mem ?_
    rintro a b inA inB (less | ⟨equal, first⟩)
    · exact .inl (precedes_of_compareRows homogeneous (seen inA) (seen inB) less)
    · exact .inr ⟨ties_of_compareRows homogeneous (seen inA) (seen inB) equal, first⟩

/-- Reads that follow the cursors of single reads to the end give everything that is read at once. -/
theorem effect_follow_select (service : Service) {store : Store} {query : Query} {predicate : Option Predicate}
    (isOpen : store.isClosed = false) (distinct : DistinctKeys (store.rowsOf query.collection))
    (named : Text.isAllBlank query.collection = false)
    (accepted : service.predicateFor query.condition = .ok predicate) {budget : Nat}
    (enough : (service.reading query predicate
      (live (store.rowsOf query.collection) store.now)).length < budget) :
    effect (follow (service.select query) budget .start) store =
      (.ok ⟨service.reading query predicate (live (store.rowsOf query.collection) store.now), .finished⟩, store) := by
  have reads (state : Store) (cursor : Cursor) (same : state = store) :
      ∃ after, effect (service.select query cursor) state =
        (service.reads query cursor false (live (store.rowsOf query.collection) store.now), after) ∧
          after = store := by
    subst same
    have read := service.effect_select query cursor distinct
    rw [isOpen] at read
    exact ⟨state, read, rfl⟩
  obtain ⟨after, walked, rfl⟩ := follow_reads named accepted reads rfl enough
  exact walked

/-- A read whose sort columns are homogeneous gives the one arrangement in which rows stand before those that they
precede and ties keep their order, and so do its pages together. -/
theorem sorted_read_arranges_rows (service : Service) (store : Store) (query : Query) (predicate : Option Predicate)
    (isOpen : store.isClosed = false) (distinct : DistinctKeys (store.rowsOf query.collection))
    (named : Text.isAllBlank query.collection = false)
    (accepted : service.predicateFor query.condition = .ok predicate)
    (homogeneous : ∀ sort ∈ query.sorts, Homogeneous
      ((service.picked predicate (live (store.rowsOf query.collection) store.now)).map service.view) sort.name) :
    let rows := live (store.rowsOf query.collection) store.now
    let picked := service.picked predicate rows
    ((∀ row, row ∈ picked ↔ row ∈ rows ∧ service.picks predicate row = true) ∧
      (picked.Sublist rows ∨ ∃ lookup, predicate = some (.keys lookup) ∧
        (picked.map StoredRow.key).Sublist lookup.keys.eraseDups)) ∧
    ∃ arranged : List StoredRow, service.Arranges query.sorts picked arranged ∧
      (∀ other, service.Arranges query.sorts picked other → other = arranged) ∧
      let all := ((arranged.drop (query.skip.getD 0)).take (min (query.limit.getD wordMax) wordMax)).map
        (service.shown query)
      effect (service.selectAll query) store = (.ok all, store) ∧
        ∀ budget, all.length < budget →
          effect (follow (service.select query) budget .start) store = (.ok ⟨all, .finished⟩, store) := by
  intro rows picked
  have distinctLive := distinctKeys_live distinct store.now
  have arranges := arranges_sorted homogeneous
  have parts := service.reading_eq query predicate rows
  refine ⟨service.picked_in_order distinctLive predicate, _, arranges, ?_, ?_, ?_⟩
  · intro other also
    exact arranges.unique (picked_distinct distinctLive predicate) also
  · rw [← parts]
    exact service.effect_selectAll isOpen distinct named accepted
  · intro budget enough
    rw [← parts] at enough ⊢
    exact service.effect_follow_select isOpen distinct named accepted enough

/-- Integers of three widths, a null and a missing field in a descending column, and a tie that an ascending column
leaves. -/
theorem mixed_widths_are_arranged :
    let row (key : String) (body : Row) : StoredRow := ⟨key, .text key, body, 1, none⟩
    let sized (value : Value) : Row := [⟨"n", .scalar value⟩, ⟨"t", .scalar (.text "x")⟩]
    let rows := [row "a" (sized (.word (⟨-1, by decide⟩ : Word .i64))), row "b" [],
      row "c" (sized (.word (⟨7, by decide⟩ : Word .u8))), row "d" [⟨"n", .scalar .null⟩],
      row "e" (sized (.word (⟨7, by decide⟩ : Word .i16)))]
    let service : Service := { settings := {}, converter := {} }
    let store : Store := { collections := [⟨"s", rows⟩] }
    let query : Query :=
      { collection := "s", sorts := [⟨"n", .descending⟩, ⟨"t", .ascending⟩], skip := some 1, fetchSize := some 2 }
    ∃ arranged : List StoredRow, service.Arranges query.sorts rows arranged ∧
      arranged.map StoredRow.key = ["c", "e", "a", "d", "b"] ∧
      effect (follow (service.select query) 5 .start) store =
        (.ok ⟨(arranged.drop 1).map (service.shown query), .finished⟩, store) := by
  intro row sized rows service store query
  have homogeneous : ∀ sort ∈ query.sorts, Homogeneous (rows.map service.view) sort.name := by
    refine List.forall_mem_cons.mpr ⟨⟨.integers, by decide, by decide +kernel⟩, ?_⟩
    exact List.forall_mem_cons.mpr ⟨⟨.scalars .text, by decide, by decide +kernel⟩, List.forall_mem_nil _⟩
  have arranges := arranges_sorted homogeneous
  obtain ⟨_, arranged, _, only, _, followed⟩ :=
    sorted_read_arranges_rows service store query none rfl (by decide) (by decide) rfl homogeneous
  obtain rfl := only _ arranges
  exact ⟨_, arranges, by decide +kernel, followed 5 (by decide +kernel)⟩

end Service

end Polystore.Store
