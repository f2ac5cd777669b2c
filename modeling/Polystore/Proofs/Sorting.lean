import Polystore.Store.Read

/-!
The sort of reads is a stable sort. Whatever the order of the items is like, the result has the same items,
and items of which none is smaller than another keep the order in which they came; where the order is total
and transitive on the items, none comes before a smaller one.
-/
namespace Polystore.Store

variable {α : Type}

/-- An order that is total and transitive on the items of a list. -/
structure Consistent (compare : α → α → Ordering) (items : List α) : Prop where
  swap : ∀ a ∈ items, ∀ b ∈ items, compare b a = (compare a b).swap
  trans : ∀ a ∈ items, ∀ b ∈ items, ∀ c ∈ items, compare a b ≠ .gt → compare b c ≠ .gt → compare a c ≠ .gt

section Orders

variable {compare : α → α → Ordering} {items : List α}

/-- An order that is total fails to be transitive where items go round in a circle. -/
theorem consistent_iff_no_circle (swap : ∀ a b, compare b a = (compare a b).swap) :
    Consistent compare items ↔
      ¬ ∃ a ∈ items, ∃ b ∈ items, ∃ c ∈ items, compare a b ≠ .gt ∧ compare b c ≠ .gt ∧ compare a c = .gt := by
  constructor
  · rintro consistent ⟨a, inA, b, inB, c, inC, first, second, back⟩
    exact consistent.trans a inA b inB c inC first second back
  · intro straight
    refine ⟨fun a _ b _ => swap a b, ?_⟩
    intro a inA b inB c inC first second back
    exact straight ⟨a, inA, b, inB, c, inC, first, second, back⟩

theorem Consistent.gt_iff (consistent : Consistent compare items) {a b : α} (inA : a ∈ items) (inB : b ∈ items) :
    compare b a = .gt ↔ compare a b = .lt := by
  rw [consistent.swap a inA b inB]
  cases compare a b <;> decide

/-- What comes strictly before an item comes strictly before all that is not before the item. -/
theorem Consistent.lt_of_lt (consistent : Consistent compare items) {a b c : α} (inA : a ∈ items) (inB : b ∈ items)
    (inC : c ∈ items) (first : compare a b = .lt) (second : compare b c ≠ .gt) : compare a c = .lt := by
  rw [← consistent.gt_iff inA inC]
  apply Decidable.byContradiction
  intro back
  exact consistent.trans b inB c inC a inA second back ((consistent.gt_iff inA inB).mpr first)

theorem Consistent.lt_of_not_gt (consistent : Consistent compare items) {a b c : α} (inA : a ∈ items)
    (inB : b ∈ items) (inC : c ∈ items) (first : compare a b ≠ .gt) (second : compare b c = .lt) :
    compare a c = .lt := by
  rw [← consistent.gt_iff inA inC]
  apply Decidable.byContradiction
  intro back
  exact consistent.trans c inC a inA b inB back first ((consistent.gt_iff inB inC).mpr second)

/-- Items are in order when what they are mapped to is. -/
theorem consistent_map_iff {β : Type} {compare : β → β → Ordering} (of : α → β) :
    Consistent compare (items.map of) ↔ Consistent (fun a b => compare (of a) (of b)) items := by
  constructor
  · intro consistent
    constructor
    · intro a inA b inB
      exact consistent.swap _ (List.mem_map_of_mem inA) _ (List.mem_map_of_mem inB)
    · intro a inA b inB c inC
      exact consistent.trans _ (List.mem_map_of_mem inA) _ (List.mem_map_of_mem inB) _ (List.mem_map_of_mem inC)
  · intro consistent
    constructor
    · simpa using consistent.swap
    · simpa using consistent.trans

theorem Consistent.reversed (consistent : Consistent compare items) :
    Consistent (fun a b => (compare a b).swap) items where
  swap := fun a inA b inB => congrArg Ordering.swap (consistent.swap a inA b inB)
  trans := by
    intro a inA b inB c inC first second
    rw [← consistent.swap a inA b inB] at first
    rw [← consistent.swap b inB c inC] at second
    rw [← consistent.swap a inA c inC]
    exact consistent.trans c inC b inB a inA second first

theorem consistent_reversed_iff : Consistent (fun a b => (compare a b).swap) items ↔ Consistent compare items := by
  constructor
  · intro consistent
    simpa using consistent.reversed
  · exact Consistent.reversed

/-- An order by which another one's ties are ordered. -/
theorem Consistent.lexicographic {next : α → α → Ordering} (consistent : Consistent compare items)
    (further : Consistent next items) : Consistent (fun a b => (compare a b).then (next a b)) items where
  swap := by
    intro a inA b inB
    rw [consistent.swap a inA b inB, further.swap a inA b inB, Ordering.swap_then]
  trans := by
    intro a inA b inB c inC first second
    cases orderAB : compare a b with
    | gt => simp [orderAB] at first
    | lt =>
      have behind : compare b c ≠ .gt := fun greater => by simp [greater] at second
      simp [consistent.lt_of_lt inA inB inC orderAB behind]
    | eq =>
      have before : compare a b ≠ .gt := by simp [orderAB]
      cases orderBC : compare b c with
      | gt => simp [orderBC] at second
      | lt => simp [consistent.lt_of_not_gt inA inB inC before orderBC]
      | eq =>
        have notGreater := consistent.trans a inA b inB c inC before (by simp [orderBC])
        have rest : next a c ≠ .gt :=
          further.trans a inA b inB c inC (by simpa [orderAB] using first) (by simpa [orderBC] using second)
        cases orderAC : compare a c with
        | lt => simp
        | eq => simpa using rest
        | gt => exact absurd orderAC notGreater

end Orders

/-- A list in order, of the same items as another, with the ties as they stood there. -/
structure IsStableSort (compare : α → α → Ordering) (items result : List α) : Prop where
  perm : result.Perm items
  ordered : Consistent compare items → result.Pairwise fun a b => compare a b ≠ .gt
  stable : ∀ chosen : α → Bool,
    (∀ a ∈ items, ∀ b ∈ items, chosen a = true → chosen b = true → compare a b ≠ .lt) →
      result.filter chosen = items.filter chosen

theorem place_perm (compare : α → α → Ordering) (item : α) (placed : List α) :
    (place compare item placed).Perm (item :: placed) := by
  induction placed with
  | nil => exact List.Perm.refl _
  | cons last rest ih =>
    unfold place
    split
    · exact (ih.cons last).trans (List.Perm.swap item last rest)
    · exact List.Perm.refl _

private theorem foldl_place_perm (compare : α → α → Ordering) (items placed : List α) :
    (items.foldl (fun placed item => place compare item placed) placed).Perm (items.reverse ++ placed) := by
  induction items generalizing placed with
  | nil => exact List.Perm.refl _
  | cons item rest ih =>
    rw [List.foldl_cons, List.reverse_cons, List.append_assoc]
    exact (ih _).trans ((place_perm compare item placed).append_left rest.reverse)

theorem sorted_perm (compare : α → α → Ordering) (items : List α) : (sorted compare items).Perm items := by
  have placed := foldl_place_perm compare items []
  rw [List.append_nil] at placed
  exact (List.reverse_perm _).trans (placed.trans (List.reverse_perm _))

/-- Placing an item keeps the placed ones in order, the greatest first. -/
theorem place_ordered {compare : α → α → Ordering} {item : α} {placed : List α}
    (consistent : Consistent compare (item :: placed))
    (ordered : placed.Pairwise fun a b => compare b a ≠ .gt) :
    (place compare item placed).Pairwise fun a b => compare b a ≠ .gt := by
  induction placed with
  | nil => simp [place]
  | cons last rest ih =>
    obtain ⟨greatest, later⟩ := List.pairwise_cons.mp ordered
    unfold place
    split
    · rename_i smaller
      have restConsistent : Consistent compare (item :: rest) :=
        ⟨fun a ha b hb => consistent.swap a (by grind) b (by grind),
          fun a ha b hb c hc => consistent.trans a (by grind) b (by grind) c (by grind)⟩
      refine List.pairwise_cons.mpr ⟨?_, ih restConsistent later⟩
      intro other member
      rcases List.mem_cons.mp ((place_perm compare item rest).mem_iff.mp member) with here | old
      · simp [here, smaller]
      · exact greatest other old
    · rename_i notSmaller
      have behind : compare last item ≠ .gt := by
        rw [consistent.swap item (by simp) last (by simp)]
        cases same : compare item last <;> simp_all
      refine List.pairwise_cons.mpr ⟨?_, ordered⟩
      intro other member
      rcases List.mem_cons.mp member with here | old
      · exact here ▸ behind
      · exact consistent.trans other (by grind) last (by simp) item (by simp) (greatest other old) behind

private theorem foldl_place_ordered {compare : α → α → Ordering} {items placed : List α}
    (consistent : Consistent compare (items ++ placed))
    (ordered : placed.Pairwise fun a b => compare b a ≠ .gt) :
    (items.foldl (fun placed item => place compare item placed) placed).Pairwise
      fun a b => compare b a ≠ .gt := by
  induction items generalizing placed with
  | nil => exact ordered
  | cons item rest ih =>
    have members (a : α) (ha : a ∈ rest ++ place compare item placed) : a ∈ item :: rest ++ placed := by
      have := (place_perm compare item placed).mem_iff (a := a)
      grind
    refine ih ⟨fun a ha b hb => consistent.swap a (members a ha) b (members b hb),
      fun a ha b hb c hc => consistent.trans a (members a ha) b (members b hb) c (members c hc)⟩ ?_
    refine place_ordered ⟨fun a ha b hb => consistent.swap a (by grind) b (by grind),
      fun a ha b hb c hc => consistent.trans a (by grind) b (by grind) c (by grind)⟩ ordered

/-- An item is placed behind the placed ones that are not greater, so among the chosen ones it comes last. -/
theorem filter_place {compare : α → α → Ordering} {item : α} {placed : List α} {chosen : α → Bool}
    (ties : ∀ a ∈ placed, chosen item = true → chosen a = true → compare item a ≠ .lt) :
    (place compare item placed).filter chosen = (item :: placed).filter chosen := by
  induction placed with
  | nil => rfl
  | cons last rest ih =>
    unfold place
    split
    · rename_i smaller
      rw [List.filter_cons, ih fun a member => ties a (List.mem_cons_of_mem last member)]
      by_cases picked : chosen item = true
      · have other : ¬ chosen last = true := fun tied => ties last (by simp) picked tied smaller
        simp [picked, other]
      · simp [picked, List.filter_cons]
    · rfl

private theorem filter_foldl_place {compare : α → α → Ordering} {items placed : List α} {chosen : α → Bool}
    (ties : ∀ a ∈ items ++ placed, ∀ b ∈ items ++ placed,
      chosen a = true → chosen b = true → compare a b ≠ .lt) :
    (items.foldl (fun placed item => place compare item placed) placed).filter chosen =
      (items.reverse ++ placed).filter chosen := by
  induction items generalizing placed with
  | nil => rfl
  | cons item rest ih =>
    have members (a : α) (ha : a ∈ rest ++ place compare item placed) : a ∈ item :: rest ++ placed := by
      have := (place_perm compare item placed).mem_iff (a := a)
      grind
    rw [List.foldl_cons, ih fun a ha b hb => ties a (members a ha) b (members b hb), List.filter_append,
      filter_place fun a ha => ties item (by simp) a (by grind)]
    simp

theorem isStableSort_sorted (compare : α → α → Ordering) (items : List α) :
    IsStableSort compare items (sorted compare items) where
  perm := sorted_perm compare items
  ordered := by
    intro consistent
    refine List.pairwise_reverse.mpr (foldl_place_ordered ?_ List.Pairwise.nil)
    simpa using consistent
  stable := by
    intro chosen ties
    rw [sorted, List.filter_reverse, filter_foldl_place (by simpa using ties)]
    simp

/-- Without an order there is nothing to sort. -/
theorem sorted_eq_self {compare : α → α → Ordering} {items : List α}
    (ties : ∀ a ∈ items, ∀ b ∈ items, compare a b ≠ .lt) : sorted compare items = items := by
  have kept := (isStableSort_sorted compare items).stable (fun _ => true) fun a ha b hb _ _ => ties a ha b hb
  rwa [List.filter_eq_self.mpr (by simp), List.filter_eq_self.mpr (by simp)] at kept

theorem Consistent.self {compare : α → α → Ordering} {items : List α} (consistent : Consistent compare items) {a : α}
    (member : a ∈ items) : compare a a = .eq := by
  have swapped := consistent.swap a member a member
  cases order : compare a a <;> simp [order] at swapped ⊢

/-- Of two sorted items the first is less, or they tie and came in this order. -/
theorem pairwise_sorted {compare : α → α → Ordering} {items : List α} (consistent : Consistent compare items) :
    (sorted compare items).Pairwise fun a b => compare a b = .lt ∨ (compare a b = .eq ∧ [a, b].Sublist items) := by
  have sorting := isStableSort_sorted compare items
  rw [List.pairwise_iff_forall_sublist]
  intro a b later
  have members (item : α) (member : item ∈ [a, b]) : item ∈ items := sorting.perm.mem_iff.mp (later.subset member)
  have inA : a ∈ items := members a (by simp)
  have notGreater := List.pairwise_iff_forall_sublist.mp (sorting.ordered consistent) later
  cases order : compare a b with
  | lt => exact .inl rfl
  | gt => exact absurd order notGreater
  | eq =>
    -- Among the items that tie with the first one nothing has moved.
    let tied (item : α) : Bool := compare a item = .eq
    have unmoved := sorting.stable tied (by
      intro x inX y inY tiedX tiedY less
      have before : compare a y = .lt := consistent.lt_of_not_gt inA inX inY (by simp_all [tied]) less
      simp [tied, before] at tiedY)
    have both : [a, b].filter tied = [a, b] := by simp [tied, consistent.self inA, order]
    refine .inr ⟨rfl, ?_⟩
    rw [← both]
    exact ((unmoved ▸ later.filter tied).trans List.filter_sublist)

theorem place_map {β : Type} (compare : β → β → Ordering) (of : α → β) (item : α) (placed : List α) :
    place compare (of item) (placed.map of) = (place (fun a b => compare (of a) (of b)) item placed).map of := by
  induction placed with
  | nil => rfl
  | cons last rest ih =>
    rw [List.map_cons, place, place, ih]
    split
    · rfl
    · rfl

/-- Items are sorted by what they are mapped to. -/
theorem sorted_map {β : Type} (compare : β → β → Ordering) (of : α → β) (items : List α) :
    sorted compare (items.map of) = (sorted (fun a b => compare (of a) (of b)) items).map of := by
  have step (placed : List α) :
      (items.map of).foldl (fun placed item => place compare item placed) (placed.map of) =
        (items.foldl (fun placed item => place (fun a b => compare (of a) (of b)) item placed) placed).map of := by
    induction items generalizing placed with
    | nil => rfl
    | cons item rest ih => rw [List.map_cons, List.foldl_cons, place_map, ih, List.foldl_cons]
  rw [sorted, sorted, ← List.map_nil, step, List.map_reverse]

/-- Comparisons that agree on the items sort them alike. -/
theorem sorted_congr {compare other : α → α → Ordering} {items : List α}
    (same : ∀ a ∈ items, ∀ b ∈ items, compare a b = other a b) : sorted compare items = sorted other items := by
  have place_congr {item : α} (inItems : item ∈ items) {placed : List α} (among : ∀ a ∈ placed, a ∈ items) :
      place compare item placed = place other item placed := by
    induction placed with
    | nil => rfl
    | cons last rest ih =>
      obtain ⟨inLast, inRest⟩ := List.forall_mem_cons.mp among
      rw [place, place, same item inItems last inLast, ih inRest]
  have step {later placed : List α} (behind : ∀ a ∈ later, a ∈ items) (among : ∀ a ∈ placed, a ∈ items) :
      later.foldl (fun placed item => place compare item placed) placed =
        later.foldl (fun placed item => place other item placed) placed := by
    induction later generalizing placed with
    | nil => rfl
    | cons item rest ih =>
      obtain ⟨inItem, inRest⟩ := List.forall_mem_cons.mp behind
      rw [List.foldl_cons, List.foldl_cons, place_congr inItem among]
      apply ih inRest
      intro a member
      rcases List.mem_cons.mp ((place_perm other item placed).mem_iff.mp member) with rfl | old
      · exact inItem
      · exact among a old
  rw [sorted, sorted, step (fun a member => member) (List.forall_mem_nil _)]

end Polystore.Store
