import Mathlib.Data.List.Perm.Subperm
import Polystore.Proofs.Converter.Maps
import Polystore.Proofs.Converter.Parts
import Polystore.Proofs.Value.Conversions

/-!
Equality of values goes both ways and goes on: what equals the same is equal, and what is equal is so from either side.
Lists and documents have this from their parts, place by place. A map is compared by the entries of one side, each of
which has to be found on the other; that nothing is left over there follows from the number of the entries, as no name
occurs twice. Filters compare by order where there is one, and the other way around two values have the opposite order.
-/
namespace Polystore

/-- Lists that are related place by place are so the other way around, if the related places are. -/
theorem forall₂_turned {α β : Type} {related : α → β → Prop} {turned : β → α → Prop} {items : List α} {others : List β}
    (each : List.Forall₂ related items others)
    (turn : ∀ item ∈ items, ∀ other ∈ others, related item other → turned other item) :
    List.Forall₂ turned others items := by
  induction each with
  | nil => exact .nil
  | cons here _ ih =>
    refine .cons (turn _ (List.mem_cons_self ..) _ (List.mem_cons_self ..) here) ?_
    refine ih fun item inItems other inOthers => ?_
    exact turn item (List.mem_cons_of_mem _ inItems) other (List.mem_cons_of_mem _ inOthers)

/-- Two relations place by place make one from the first list to the last. -/
theorem forall₂_chained {α β γ : Type} {first : α → β → Prop} {second : β → γ → Prop} {chained : α → γ → Prop}
    {items : List α} {others : List β} {more : List γ} (start : List.Forall₂ first items others)
    (goesOn : List.Forall₂ second others more)
    (chain : ∀ item ∈ items, ∀ other last, first item other → second other last → chained item last) :
    List.Forall₂ chained items more := by
  induction start generalizing more with
  | nil =>
    cases goesOn
    exact .nil
  | cons here _ ih =>
    cases goesOn with
    | cons next rest =>
      exact .cons (chain _ (List.mem_cons_self ..) _ _ here next)
        (ih rest fun item member => chain item (List.mem_cons_of_mem _ member))

/-- Maps with as many entries have nothing left over: where each entry of the one is matched under its name in the
other, each of the other is matched in the one. -/
theorem Named.exists_matching {α β : Type} (matching : α → β → Prop) {items : List (Named α)} {others : List (Named β)}
    (distinct : Distinct items) (otherDistinct : Distinct others) (length : items.length = others.length)
    (each : ∀ item ∈ items, ∃ value, find? others item.name = some value ∧ matching item.value value)
    {other : Named β} (member : other ∈ others) :
    ∃ item ∈ items, item.name = other.name ∧ matching item.value other.value := by
  have within : names items ⊆ names others := by
    intro name present
    obtain ⟨item, inItems, rfl⟩ := List.mem_map.mp present
    obtain ⟨value, found, _⟩ := each item inItems
    exact List.mem_map_of_mem (mem_of_find? found)
  -- Names that occur once and are as many as those among which they are leave none out.
  have all : (names items).Perm (names others) :=
    (List.subperm_of_subset distinct within).perm_of_length_le (by simp [names, length])
  obtain ⟨item, inItems, same⟩ := List.mem_map.mp (all.symm.subset (List.mem_map_of_mem member))
  obtain ⟨value, found, matched⟩ := each item inItems
  have here : find? others item.name = some other.value := same ▸ find?_of_mem otherDistinct member
  exact ⟨item, inItems, same, Option.some.inj (found.symm.trans here) ▸ matched⟩

theorem Binary.same_iff {width : FloatWidth} (x y : Binary width) :
    x.same y = true ↔ x.isNaN = false ∧ y.isNaN = false ∧ x.key = y.key := by
  rw [same, decide_eq_true_eq, compare?]
  cases x.isNaN <;> cases y.isNaN <;> simp [Std.LawfulEqCmp.compare_eq_iff_eq]

namespace ScalarType

variable {type : ScalarType}

theorem same_symm {a b : type.Carrier} (equal : type.same a b = true) : type.same b a = true := by
  cases type with
  | float width =>
    obtain ⟨first, second, keys⟩ := (Binary.same_iff a b).mp equal
    exact (Binary.same_iff b a).mpr ⟨second, first, keys.symm⟩
  | decimal => exact (Decimal.same_iff b a).mpr ((Decimal.same_iff a b).mp equal).symm
  | _ =>
    simp only [same, decide_eq_true_eq] at equal ⊢
    exact equal.symm

theorem same_trans {a b c : type.Carrier} (first : type.same a b = true) (second : type.same b c = true) :
    type.same a c = true := by
  cases type with
  | float width =>
    obtain ⟨real, _, keys⟩ := (Binary.same_iff a b).mp first
    obtain ⟨_, last, more⟩ := (Binary.same_iff b c).mp second
    exact (Binary.same_iff a c).mpr ⟨real, last, keys.trans more⟩
  | decimal =>
    have numbers := ((Decimal.same_iff a b).mp first).trans ((Decimal.same_iff b c).mp second)
    exact (Decimal.same_iff a c).mpr numbers
  | _ =>
    simp only [same, decide_eq_true_eq] at first second ⊢
    exact first.trans second

theorem sameOption_symm {a b : Option type.Carrier} (equal : type.sameOption a b = true) :
    type.sameOption b a = true := by
  cases a <;> cases b <;> first | exact equal | exact same_symm equal

theorem sameOption_trans {a b c : Option type.Carrier} (first : type.sameOption a b = true)
    (second : type.sameOption b c = true) : type.sameOption a c = true := by
  cases a <;> cases b <;> cases c <;> first | trivial | exact same_trans first second

end ScalarType

namespace Value

/-- One step of a comparison: the values are of one shape, and their parts are equal. -/
inductive EqualBy (equal : Value → Value → Prop) : Value → Value → Prop where
  | null : EqualBy equal .null .null
  | scalar {type : ScalarType} {a b : Option type.Carrier} (here : type.sameOption a b = true) :
    EqualBy equal (.scalar type a) (.scalar type b)
  | nullList (hint other : Value) : EqualBy equal (.nullList hint) (.nullList other)
  | list {items others : List Value} (hint other : Value) (each : List.Forall₂ equal items others) :
    EqualBy equal (.list items hint) (.list others other)
  | nullMap : EqualBy equal .nullMap .nullMap
  | map {entries others : List (Named Value)} (length : entries.length = others.length)
    (each : ∀ entry ∈ entries, ∃ value, Named.find? others entry.name = some value ∧ equal entry.value value) :
    EqualBy equal (.map entries) (.map others)
  | document {field other : Named Value} (name : field.name = other.name) (here : equal field.value other.value) :
    EqualBy equal (.document field) (.document other)
  | documents {fields others : List (Named Value)}
    (each : List.Forall₂ (fun a b => a.name = b.name ∧ equal a.value b.value) fields others) :
    EqualBy equal (.documents fields) (.documents others)
  | custom {own other : Custom} (type : own.typeName = other.typeName) (place : own.allocation = other.allocation) :
    EqualBy equal (.custom own) (.custom other)

theorem sameItems_iff {items others : List Value} :
    sameItems items others = true ↔ List.Forall₂ (fun a b => a.same b = true) items others := by
  induction items generalizing others with
  | nil => cases others <;> simp [sameItems]
  | cons item rest ih => cases others <;> simp [sameItems, ih]

theorem sameField_iff {field other : Named Value} :
    sameField field other = true ↔ field.name = other.name ∧ field.value.same other.value = true := by
  rw [sameField, Bool.and_eq_true, decide_eq_true_eq]

theorem sameFields_iff {fields others : List (Named Value)} :
    sameFields fields others = true ↔
      List.Forall₂ (fun a b => a.name = b.name ∧ a.value.same b.value = true) fields others := by
  induction fields generalizing others with
  | nil => cases others <;> simp [sameFields]
  | cons field rest ih => cases others <;> simp [sameFields, sameField_iff, ih]

theorem sameEntries_iff {entries others : List (Named Value)} :
    sameEntries entries others = true ↔
      ∀ entry ∈ entries, ∃ value, Named.find? others entry.name = some value ∧ entry.value.same value = true := by
  induction entries with
  | nil => simp [sameEntries]
  | cons entry rest ih =>
    have here : sameEntry entry others = true ↔
        ∃ value, Named.find? others entry.name = some value ∧ entry.value.same value = true := by
      rw [sameEntry]
      cases Named.find? others entry.name <;> simp
    rw [sameEntries, Bool.and_eq_true, here, ih, List.forall_mem_cons]

theorem EqualBy.of_same {a b : Value} (equal : a.same b = true) : EqualBy (fun x y => x.same y = true) a b := by
  unfold same at equal
  split at equal
  case h_1 => exact .null
  case h_2 =>
    split at equal
    · rename_i alike
      subst alike
      exact .scalar equal
    · cases equal
  case h_3 => exact .nullList _ _
  case h_4 => exact .list _ _ (sameItems_iff.mp equal)
  case h_5 => exact .nullMap
  case h_6 =>
    rw [Bool.and_eq_true, decide_eq_true_eq] at equal
    exact .map equal.1 (sameEntries_iff.mp equal.2)
  case h_7 =>
    obtain ⟨name, here⟩ := sameField_iff.mp equal
    exact .document name here
  case h_8 => exact .documents (sameFields_iff.mp equal)
  case h_9 =>
    rw [Bool.and_eq_true, decide_eq_true_eq, decide_eq_true_eq] at equal
    exact .custom equal.1 equal.2
  case h_10 => cases equal

theorem same_of_equalBy {a b : Value} (equal : EqualBy (fun x y => x.same y = true) a b) : a.same b = true := by
  cases equal with
  | null | nullList | nullMap => rw [same]
  | scalar here => rwa [same, dif_pos rfl]
  | list hint other each => rwa [same, sameItems_iff]
  | map length each =>
    rw [same, Bool.and_eq_true, decide_eq_true_eq, sameEntries_iff]
    exact ⟨length, each⟩
  | document name here =>
    rw [same, sameField_iff]
    exact ⟨name, here⟩
  | documents each => rwa [same, sameFields_iff]
  | custom type place => simp [same, type, place]

/-- Equality goes by shape and by parts. -/
theorem same_iff {a b : Value} : a.same b = true ↔ EqualBy (fun x y => x.same y = true) a b :=
  ⟨.of_same, same_of_equalBy⟩

theorem MapsDistinct.parts {value part : Value} (distinct : value.MapsDistinct) (member : part ∈ value.parts) :
    part.MapsDistinct := by
  cases value with
  | list items hint => exact allMapsDistinct_iff.mp distinct part member
  | map entries =>
    obtain ⟨entry, present, rfl⟩ := List.mem_map.mp member
    exact fieldMapsDistinct_iff.mp distinct.2 entry present
  | document field =>
    obtain rfl := List.mem_singleton.mp member
    rwa [MapsDistinct, InMapsDistinct] at distinct
  | documents fields =>
    obtain ⟨field, present, rfl⟩ := List.mem_map.mp member
    exact fieldMapsDistinct_iff.mp distinct field present
  | _ => cases member

/-- What is equal is so from the other side. -/
theorem same_symm {a b : Value} (distinct : a.MapsDistinct) (otherDistinct : b.MapsDistinct) (equal : a.same b = true) :
    b.same a = true := by
  induction a using nested generalizing b with
  | step a ih =>
    have turned {x y : Value} (inA : x ∈ a.parts) (inB : y ∈ b.parts) (here : x.same y = true) : y.same x = true :=
      ih x inA (distinct.parts inA) (otherDistinct.parts inB) here
    rw [same_iff] at equal ⊢
    cases equal with
    | null => exact .null
    | scalar here => exact .scalar (ScalarType.sameOption_symm here)
    | nullList => exact .nullList _ _
    | list hint other each => exact .list _ _ (forall₂_turned each fun _ inItems _ inOthers => turned inItems inOthers)
    | nullMap => exact .nullMap
    | map length each =>
      refine .map length.symm fun other member => ?_
      obtain ⟨entry, present, name, here⟩ :=
        Named.exists_matching (fun a b => a.same b = true) distinct.1 otherDistinct.1 length each member
      refine ⟨entry.value, ?_, turned (List.mem_map_of_mem present) (List.mem_map_of_mem member) here⟩
      exact name ▸ Named.find?_of_mem distinct.1 present
    | document name here =>
      exact .document name.symm (turned (List.mem_singleton_self _) (List.mem_singleton_self _) here)
    | documents each =>
      refine .documents (forall₂_turned each fun field inFields other inOthers here => ⟨here.1.symm, ?_⟩)
      exact turned (List.mem_map_of_mem inFields) (List.mem_map_of_mem inOthers) here.2
    | custom type place => exact .custom type.symm place.symm

/-- What equals the same is equal. -/
theorem same_trans {a b c : Value} (first : a.same b = true) (second : b.same c = true) : a.same c = true := by
  induction a using nested generalizing b c with
  | step a ih =>
    rw [same_iff] at first second ⊢
    cases first with
    | null => exact second
    | scalar here =>
      cases second with
      | scalar there => exact .scalar (ScalarType.sameOption_trans here there)
    | nullList =>
      cases second
      exact .nullList _ _
    | list hint other each =>
      cases second with
      | list _ last more => exact .list _ _ (forall₂_chained each more fun item member _ _ => ih item member)
    | nullMap => exact second
    | map length each =>
      cases second with
      | map moreLength more =>
        refine .map (length.trans moreLength) fun entry member => ?_
        obtain ⟨value, found, here⟩ := each entry member
        obtain ⟨last, foundLast, there⟩ := more _ (Named.mem_of_find? found)
        exact ⟨last, foundLast, ih entry.value (List.mem_map_of_mem member) here there⟩
    | document name here =>
      cases second with
      | document lastName there =>
        exact .document (name.trans lastName) (ih _ (List.mem_singleton_self _) here there)
    | documents each =>
      cases second with
      | documents more =>
        refine .documents (forall₂_chained each more fun field member _ _ here there => ⟨here.1.trans there.1, ?_⟩)
        exact ih field.value (List.mem_map_of_mem member) here.2 there.2
    | custom type place =>
      cases second with
      | custom lastType lastPlace => exact .custom (type.trans lastType) (place.trans lastPlace)

theorem same_comm {a b : Value} (distinct : a.MapsDistinct) (otherDistinct : b.MapsDistinct) : a.same b = b.same a :=
  Bool.eq_iff_iff.mpr ⟨same_symm distinct otherDistinct, same_symm otherDistinct distinct⟩

/-- The order of the entries of a map does not count. -/
theorem same_map_of_perm {entries permuted : List (Named Value)} (reordered : permuted.Perm entries) (other : Value) :
    (map permuted).same other = (map entries).same other := by
  cases other with
  | map others =>
    have each : sameEntries permuted others = sameEntries entries others := by
      rw [Bool.eq_iff_iff, sameEntries_iff, sameEntries_iff]
      exact forall_congr' fun entry => by rw [reordered.mem_iff]
    rw [same, same, reordered.length_eq, each]
  | _ => simp [same]

theorem equals_comm {a b : Value} (distinct : a.MapsDistinct) (otherDistinct : b.MapsDistinct) :
    a.equals b = b.equals a := by
  rw [equals, equals, Bool.and_comm, compare?_swap a b]
  split
  · rfl
  · cases a.compare? b with
    | none => exact same_comm distinct otherDistinct
    | some order => cases order <;> rfl

/-- Comparisons turn around, equality is symmetric and transitive, and a value equals itself unless it holds a pattern
that is no number. -/
theorem equality_is_symmetric_and_transitive :
    (∀ a b : Value, b.compare? a = (a.compare? b).map Ordering.swap) ∧
    (∀ a b : Value, a.MapsDistinct → b.MapsDistinct → a.equals b = b.equals a) ∧
    (∀ a b : Value, a.withoutHints.same b = a.same b) ∧
    (∀ (entries permuted : List (Named Value)) (other : Value), permuted.Perm entries →
      (map permuted).same other = (map entries).same other) ∧
    (∀ a b : Value, a.MapsDistinct → b.MapsDistinct → a.same b = b.same a) ∧
    (∀ a b c : Value, a.same b = true → b.same c = true → a.same c = true) ∧
    ∀ a : Value, a.MapsDistinct → (a.same a = true ↔ a.hasNaN = false) := by
  refine ⟨compare?_swap, fun _ _ => equals_comm, same_withoutHints, ?_, fun _ _ => same_comm, fun _ _ _ => same_trans,
    fun a distinct => ?_⟩
  · exact fun _ _ other reordered => same_map_of_perm reordered other
  · rw [same_self a distinct, Bool.not_eq_true']

/-- Two maps with their entries in different orders are equal from both sides, one of them with a list of another hint;
a document that holds no number does not equal itself. -/
theorem reordered_maps_are_equal :
    let first : Value := .map [⟨"x", .list [.boolean true] .null⟩, ⟨"y", .text "t"⟩]
    let second : Value := .map [⟨"y", .text "t"⟩, ⟨"x", .list [.boolean true] (.text "")⟩]
    let hollow : Value := .documents [⟨"n", .scalar (.float .double) (some (Binary.nan .double))⟩]
    first.MapsDistinct ∧ second.MapsDistinct ∧ hollow.MapsDistinct ∧ first.same second = true ∧
      second.same first = true ∧ first.same first = true ∧ first.equals second = second.equals first ∧
      hollow.same hollow = false := by
  intro first second hollow
  obtain ⟨_, filtered, _, reordered, turned, chained, itself⟩ := equality_is_symmetric_and_transitive
  have distinct : first.MapsDistinct := by
    simp [first, MapsDistinct, FieldMapsDistinct, InMapsDistinct, AllMapsDistinct, Named.Distinct, Named.names, boolean,
      text]
  have otherDistinct : second.MapsDistinct := by
    simp [second, MapsDistinct, FieldMapsDistinct, InMapsDistinct, AllMapsDistinct, Named.Distinct, Named.names, boolean,
      text]
  have hollowDistinct : hollow.MapsDistinct := by simp [hollow, MapsDistinct, FieldMapsDistinct, InMapsDistinct]
  have equal : first.same second = true := by
    rw [reordered [⟨"y", .text "t"⟩, ⟨"x", .list [.boolean true] .null⟩] _ second (.swap ..)]
    decide +kernel
  have back : second.same first = true := (turned first second distinct otherDistinct).symm.trans equal
  refine ⟨distinct, otherDistinct, hollowDistinct, equal, back, chained first second first equal back,
    filtered first second distinct otherDistinct, ?_⟩
  rw [Bool.eq_false_iff, ne_eq, itself hollow hollowDistinct]
  decide

end Value

end Polystore
