import Polystore.Proofs.Sorting
import Polystore.Proofs.Value.Order

/-!
The order of rows in a sorted read. A column orders rows by what they have in it: nothing, a null, or a value, and
values by their own order. The columns of a sort are taken one after another, each in its direction. Any two rows are
ordered, a row ties with itself, and rows go round in a circle only where the values of a column are in the way of an
order.
-/
namespace Polystore.Store

/-- The values that rows have in a column. -/
def column (rows : List Row) (name : String) : List Value := rows.filterMap fun row => cell row name

/-- The three groups of a column, in their order: the rows without its field, the nulls, the values. -/
def presence : Option Value → Nat
  | none => 0
  | some value => if value.isNull then 1 else 2

/-- The order that the values of two cells have, if there are two. -/
def compareValues? (a b : Option Value) : Option Ordering := a.bind fun value => b.bind value.compare?

theorem presence_of_null {value : Value} (null : value.isNull = true) : presence (some value) = 1 := by
  simp [presence, null]

theorem presence_of_value {value : Value} (present : value.isNull = false) : presence (some value) = 2 := by
  simp [presence, present]

theorem compareCells_eq (a b : Option Value) :
    compareCells a b = (compare (presence a) (presence b)).then ((compareValues? a b).getD .eq) := by
  rcases a with _ | x
  · rcases b with _ | y
    · rfl
    · cases null : y.isNull with
      | true => rw [presence_of_null null]; rfl
      | false => rw [presence_of_value null]; rfl
  · rcases b with _ | y
    · cases null : x.isNull with
      | true => rw [presence_of_null null]; rfl
      | false => rw [presence_of_value null]; rfl
    · cases nullX : x.isNull with
      | true =>
        have unordered : compareValues? (some x) (some y) = none := Value.compare?_of_isNull nullX y
        cases nullY : y.isNull with
        | true => simp only [compareCells, nullX, nullY, unordered, presence_of_null]; rfl
        | false => simp only [compareCells, nullX, nullY, presence_of_null nullX, presence_of_value nullY]; rfl
      | false =>
        cases nullY : y.isNull with
        | true => simp only [compareCells, nullX, nullY, presence_of_value nullX, presence_of_null nullY]; rfl
        | false => simp only [compareCells, nullX, nullY, presence_of_value]; rfl

theorem compareValues?_swap (a b : Option Value) : compareValues? b a = (compareValues? a b).map Ordering.swap := by
  unfold compareValues?
  cases a with
  | none => cases b <;> rfl
  | some x =>
    cases b with
    | none => rfl
    | some y => exact x.compare?_swap y

/-- Nothing has an order with a null. -/
theorem compareValues?_of_isNull {b : Value} (null : b.isNull = true) (a : Option Value) :
    compareValues? a (some b) = none := by
  cases a with
  | none => rfl
  | some x =>
    have unordered : x.compare? b = none := by rw [b.compare?_swap x, Value.compare?_of_isNull null]; rfl
    exact unordered

theorem compareCells_swap (a b : Option Value) : compareCells b a = (compareCells a b).swap := by
  have turned : (compareValues? b a).getD .eq = ((compareValues? a b).getD .eq).swap := by
    rw [compareValues?_swap]
    cases compareValues? a b <;> rfl
  rw [compareCells_eq, compareCells_eq, Ordering.swap_then, turned, Std.OrientedOrd.eq_swap (a := presence b)]

/-- Only a value is in the last group. -/
theorem exists_value_of_presence {cell : Option Value} (value : presence cell = 2) :
    ∃ present, cell = some present ∧ present.isNull = false := by
  unfold presence at value
  split at value
  · cases value
  · rename_i present
    split at value
    · cases value
    · rename_i notNull
      exact ⟨present, rfl, Bool.eq_false_iff.mpr notNull⟩

theorem getD_eq_gt_iff (order : Option Ordering) : order.getD .eq = .gt ↔ order = some .gt := by
  cases order <;> simp

/-- Cells of different groups do not go round in a circle. -/
theorem presence_eq_of_circle {a b c : Option Value} (first : compareCells a b ≠ .gt)
    (second : compareCells b c ≠ .gt) (back : compareCells a c = .gt) :
    presence a = presence b ∧ presence b = presence c := by
  have upTo {a b : Option Value} (notGreater : compareCells a b ≠ .gt) : presence a ≤ presence b := by
    rw [← not_lt, ← compare_gt_iff_gt]
    intro greater
    simp [compareCells_eq, greater] at notGreater
  have low := upTo first
  have high := upTo second
  have downTo := upTo (a := c) (b := a) (by simp [compareCells_swap a c, back])
  omega

/-- A circle of cells is a circle of values. -/
theorem circle_of_cells {a b c : Option Value} (first : compareCells a b ≠ .gt) (second : compareCells b c ≠ .gt)
    (back : compareCells a c = .gt) : ∃ x y z, a = some x ∧ b = some y ∧ c = some z ∧
      y.isNull = false ∧ x.compare? y ≠ some .gt ∧ y.compare? z ≠ some .gt ∧ x.compare? z = some .gt := by
  obtain ⟨sameAB, sameBC⟩ := presence_eq_of_circle first second back
  simp only [compareCells_eq, sameAB, sameBC, Std.ReflCmp.compare_self, Ordering.eq_then, ne_eq,
    getD_eq_gt_iff] at first second back
  obtain ⟨x, rfl, bound⟩ := Option.bind_eq_some_iff.mp back
  obtain ⟨z, rfl, ordered⟩ := Option.bind_eq_some_iff.mp bound
  have present := (Value.isNull_of_compare? ordered).2
  obtain ⟨y, rfl, between⟩ := exists_value_of_presence (sameBC.trans (presence_of_value present))
  exact ⟨x, y, z, rfl, rfl, rfl, between, first, second, ordered⟩

/-- The cells of a column are in order unless some of its values are in the way. -/
theorem consistent_compareCells_iff (cells : List (Option Value)) :
    Consistent compareCells cells ↔ ¬ Value.Muddled (cells.filterMap id) := by
  have member (value : Value) : value ∈ cells.filterMap id ↔ some value ∈ cells := by simp
  rw [consistent_iff_no_circle compareCells_swap, Value.muddled_iff, not_iff_not]
  constructor
  · rintro ⟨a, inA, b, inB, c, inC, first, second, back⟩
    obtain ⟨x, y, z, rfl, rfl, rfl, circle⟩ := circle_of_cells first second back
    exact ⟨x, (member x).mpr inA, y, (member y).mpr inB, z, (member z).mpr inC, circle⟩
  · rintro ⟨x, inX, y, inY, z, inZ, present, first, second, back⟩
    have values {v w : Value} (v_present : v.isNull = false) (w_present : w.isNull = false) :
        compareCells (some v) (some w) = (v.compare? w).getD .eq := by
      simp only [compareCells, v_present, w_present]
    obtain ⟨presentX, presentZ⟩ := Value.isNull_of_compare? back
    refine ⟨some x, (member x).mp inX, some y, (member y).mp inY, some z, (member z).mp inZ, ?_⟩
    rw [values presentX present, values present presentZ, values presentX presentZ]
    simp only [ne_eq, getD_eq_gt_iff]
    exact ⟨first, second, back⟩

/-- The order of rows by one column, in its direction. -/
def compareColumn (sort : SortKey) (a b : Row) : Ordering :=
  match sort.direction with
  | .ascending => compareCells (cell a sort.name) (cell b sort.name)
  | .descending => (compareCells (cell a sort.name) (cell b sort.name)).swap

theorem compareRows_cons (sort : SortKey) (rest : List SortKey) (a b : Row) :
    compareRows (sort :: rest) a b = (compareColumn sort a b).then (compareRows rest a b) := rfl

theorem compareRows_singleton (sort : SortKey) : compareRows [sort] = compareColumn sort := by
  funext a b
  rw [compareRows_cons, compareRows, Ordering.then_eq]

theorem compareColumn_swap (sort : SortKey) (a b : Row) : compareColumn sort b a = (compareColumn sort a b).swap := by
  unfold compareColumn
  rw [compareCells_swap (cell a sort.name)]
  split
  · rfl
  · rfl

/-- Whichever way around, two rows are ordered the same way. -/
theorem compareRows_swap (sorts : List SortKey) (a b : Row) :
    compareRows sorts b a = (compareRows sorts a b).swap := by
  induction sorts with
  | nil => rfl
  | cons sort rest ih => rw [compareRows_cons, compareRows_cons, compareColumn_swap, ih, Ordering.swap_then]

theorem compareRows_self (sorts : List SortKey) (row : Row) : compareRows sorts row row = .eq := by
  have swapped := compareRows_swap sorts row row
  cases order : compareRows sorts row row <;> simp [order] at swapped ⊢

theorem column_eq (rows : List Row) (name : String) :
    column rows name = (rows.map fun row => cell row name).filterMap id := by
  rw [List.filterMap_map]
  rfl

/-- A column orders rows unless some of its values are in the way, whatever its direction. -/
theorem consistent_compareColumn_iff (sort : SortKey) (rows : List Row) :
    Consistent (compareColumn sort) rows ↔ ¬ Value.Muddled (column rows sort.name) := by
  have ascending : Consistent (fun a b => compareCells (cell a sort.name) (cell b sort.name)) rows ↔
      ¬ Value.Muddled (column rows sort.name) := by
    rw [← consistent_map_iff fun row : Row => cell row sort.name, consistent_compareCells_iff, column_eq]
  unfold compareColumn
  cases sort.direction with
  | ascending => exact ascending
  | descending => exact consistent_reversed_iff.trans ascending

/-- Rows are in order where no column of the sort is muddled. -/
theorem consistent_compareRows {sorts : List SortKey} {rows : List Row}
    (clear : ∀ sort ∈ sorts, ¬ Value.Muddled (column rows sort.name)) : Consistent (compareRows sorts) rows := by
  induction sorts with
  | nil =>
    constructor
    · intro a _ b _
      rfl
    · intro a _ b _ c _ _ _
      simp [compareRows]
  | cons sort rest ih =>
    have first := (consistent_compareColumn_iff sort rows).mpr (clear sort (List.mem_cons_self ..))
    exact first.lexicographic (ih fun other member => clear other (List.mem_cons_of_mem sort member))

/-- Any two rows are ordered, whichever comes first, and a row ties with itself. The order of three rows is transitive
where no column of the sort is muddled by them; the order by one column is transitive on them only there. -/
theorem rows_ordered_unless_muddled (sorts : List SortKey) (a b c : Row) :
    compareRows sorts b a = (compareRows sorts a b).swap ∧ compareRows sorts a a = .eq ∧
      ((∀ sort ∈ sorts, ¬ Value.Muddled (column [a, b, c] sort.name)) →
        compareRows sorts a b ≠ .gt → compareRows sorts b c ≠ .gt → compareRows sorts a c ≠ .gt) ∧
      ∀ sort : SortKey, Value.Muddled (column [a, b, c] sort.name) ↔
        ∃ x ∈ [a, b, c], ∃ y ∈ [a, b, c], ∃ z ∈ [a, b, c],
          compareRows [sort] x y ≠ .gt ∧ compareRows [sort] y z ≠ .gt ∧ compareRows [sort] x z = .gt := by
  refine ⟨compareRows_swap sorts a b, compareRows_self sorts a, ?_, ?_⟩
  · intro clear
    exact (consistent_compareRows clear).trans a (by simp) b (by simp) c (by simp)
  · intro sort
    rw [← not_iff_not, ← consistent_compareColumn_iff, ← consistent_iff_no_circle (compareRows_swap [sort]),
      compareRows_singleton]

/-- Integers, a double and decimals are in order where rounding keeps their order. -/
theorem mixed_numbers_are_ordered :
    let row (value : Value) : Row := [⟨"n", .scalar value⟩]
    let sorts : List SortKey := [⟨"n", .descending⟩]
    let seven := row (.word (⟨7, by decide⟩ : Word .u8))
    let half := row (.scalar (.float .double) (some ⟨0x3FE0000000000000, by decide⟩))
    let third := row (.scalar .decimal (some ⟨true, 333, 3, by decide, by decide⟩))
    (∀ sort ∈ sorts, ¬ Value.Muddled (column [seven, half, third] sort.name)) ∧
      compareRows sorts seven third = .lt ∧ compareRows sorts seven third ≠ .gt := by
  intro row sorts seven half third
  have clear : ∀ sort ∈ sorts, ¬ Value.Muddled (column [seven, half, third] sort.name) := by decide +kernel
  refine ⟨clear, by decide +kernel, ?_⟩
  exact (rows_ordered_unless_muddled sorts seven half third).2.2.1 clear (by decide +kernel) (by decide +kernel)

/-- The double of 2 ^ 53 + 1 is that of 2 ^ 53, which ties with both integers. A text has no order with an integer,
which ties with all texts. -/
theorem ties_go_round_in_a_circle :
    let row (value : Value) : Row := [⟨"v", .scalar value⟩]
    let sorts : List SortKey := [⟨"v", .ascending⟩]
    let next := row (.word (⟨9007199254740993, by decide⟩ : Word .i64))
    let double := row (.scalar (.float .double) (some ⟨0x4340000000000000, by decide⟩))
    let power := row (.word (⟨9007199254740992, by decide⟩ : Word .i64))
    let one := row (.word (⟨1, by decide⟩ : Word .i64))
    (compareRows sorts next double = .eq ∧ compareRows sorts double power = .eq ∧
      compareRows sorts next power = .gt) ∧
    (compareRows sorts (row (.text "b")) one = .eq ∧ compareRows sorts one (row (.text "a")) = .eq ∧
      compareRows sorts (row (.text "b")) (row (.text "a")) = .gt) := by
  decide +kernel

end Polystore.Store
