import Mathlib.Data.Rat.Cast.Order
import Polystore.Proofs.Comparisons
import Polystore.Proofs.Value.Equality

/-!
The order of values. The values of a family, which is the integers of all widths or one type that orders itself, are
compared exactly, and within it the order is total and transitive. Numbers of different families are compared as
doubles, and values that are no numbers have no order beyond their family. Two comparisons of rounded numbers and an
exact one need not fit together, and a value without an order ties with all others: `Unplaced` and `Misrounded` are the
only ways in which three values fail to be in order.
-/
namespace Polystore

/-- The rational number that a decimal is. -/
def Decimal.number (x : Decimal) : ℚ := x.signed / tenTo x.scale

theorem Decimal.compare_eq (x y : Decimal) : x.compare y = Ord.compare x.number y.number := by
  have tenToPos (scale : Nat) : (0 : ℚ) < tenTo scale := by exact_mod_cast tenTo_pos scale
  have less (x y : Decimal) : x.signed * tenTo y.scale < y.signed * tenTo x.scale ↔ x.number < y.number := by
    rw [number, number, div_lt_div_iff₀ (tenToPos _) (tenToPos _)]
    exact_mod_cast Iff.rfl
  exact compare_eq_compare (less x y) (less y x)

instance Decimal.transCmp_compare : Std.TransCmp Decimal.compare := by
  have same : Decimal.compare = fun x y => Ord.compare x.number y.number := by
    funext x y
    exact x.compare_eq y
  rw [same]
  exact transCmp_on Ord.compare Decimal.number

instance Date.transCmp_compare : Std.TransCmp Date.compare :=
  inferInstanceAs (Std.TransCmp (compareLex (compareOn Date.year)
    (compareLex (compareOn Date.month) (compareOn Date.day))))

instance Time.transCmp_compare : Std.TransCmp Time.compare := transCmp_on Ord.compare Time.number

instance Timestamp.transCmp_compare : Std.TransCmp Timestamp.compare :=
  have _ := transCmp_on Date.compare Timestamp.date
  have _ := transCmp_on Time.compare Timestamp.time
  inferInstanceAs (Std.TransCmp (compareLex (fun a b : Timestamp => a.date.compare b.date)
    fun a b => a.time.compare b.time))

namespace ScalarType

/-- The order of the scalars of a type that orders itself. The scalars of another type all tie. -/
def order (type : ScalarType) (a b : type.Carrier) : Ordering := (type.compare? a b).getD .eq

theorem compare?_eq_order {type : ScalarType} (ordered : type.isOrdered = true) (a b : type.Carrier) :
    type.compare? a b = some (type.order a b) := by
  have isSome : (type.compare? a b).isSome = true := by
    cases type with
    | integer | float => cases ordered
    | _ => rfl
  obtain ⟨order, compared⟩ := Option.isSome_iff_exists.mp isSome
  rw [ScalarType.order, compared, Option.getD_some]

theorem order_eq (type : ScalarType) (compare : type.Carrier → type.Carrier → Ordering)
    (compared : ∀ a b, type.compare? a b = some (compare a b)) : type.order = compare := by
  funext a b
  rw [order, compared, Option.getD_some]

instance transCmp_order (type : ScalarType) : Std.TransCmp type.order := by
  cases type with
  | integer | float => exact { eq_swap := rfl, isLE_trans := fun _ _ => rfl }
  | boolean => exact transCmp_on Ord.compare Bool.toNat
  | text => exact transCmp_on Ord.compare String.toList
  | blob => exact inferInstanceAs (Std.TransCmp (Ord.compare : List UInt8 → List UInt8 → Ordering))
  | decimal =>
    rw [order_eq .decimal Decimal.compare fun _ _ => rfl]
    infer_instance
  | date =>
    rw [order_eq .date Date.compare fun _ _ => rfl]
    infer_instance
  | time =>
    rw [order_eq .time Time.compare fun _ _ => rfl]
    infer_instance
  | timestamp =>
    rw [order_eq .timestamp Timestamp.compare fun _ _ => rfl]
    infer_instance
  | offsetTimestamp => exact transCmp_on Ord.compare OffsetTimestamp.instant
  | uuid => exact transCmp_on Ord.compare Uuid.number

end ScalarType

/-- The values that are compared exactly with one another: the integers of all widths, or the scalars of one type that
orders itself. -/
inductive Family where
  | integers
  | scalars (type : ScalarType)
deriving DecidableEq

/-- Whether the values of a family are numbers, so that they are also compared with numbers outside of it. -/
def Family.isNumeric : Family → Bool
  | .integers => true
  | .scalars type => type.isNumeric

namespace Value

/-- The family of a value. Nulls have none, and neither have floating-point numbers, lists, maps and documents. -/
def family? : Value → Option Family
  | .scalar (.integer _) (some _) => some .integers
  | .scalar type (some _) => if type.isOrdered then some (.scalars type) else none
  | _ => none

/-- Two values of one family. -/
def Alike (a b : Value) : Prop := a.family?.isSome = true ∧ a.family? = b.family?

instance (a b : Value) : Decidable (a.Alike b) := inferInstanceAs (Decidable (_ ∧ _))

/-- Where a number stands among the doubles. What is no number stands nowhere. -/
def place? (value : Value) : Option Int :=
  value.asDouble?.bind fun double => if double.isNaN then none else some double.key

theorem compareDoubles?_eq (a b : Value) :
    a.compareDoubles? b = a.place?.bind fun place => b.place?.map (Ord.compare place) := by
  unfold compareDoubles? place?
  cases a.asDouble? with
  | none => rfl
  | some x =>
    cases b.asDouble? with
    | none =>
      rcases Bool.eq_false_or_eq_true x.isNaN with notNumber | number
      · simp [notNumber]
      · simp [number]
    | some y =>
      simp only [Option.bind_eq_bind, Option.bind_some, Binary.compare?]
      rcases Bool.eq_false_or_eq_true x.isNaN with notNumber | number
      · simp [notNumber]
      · rcases Bool.eq_false_or_eq_true y.isNaN with notNumber | other
        · simp [number, notNumber]
        · simp [number, other]

/-- The members of a family are integers, or scalars of one type. -/
theorem of_family? {value : Value} {family : Family} (member : value.family? = some family) :
    (∃ number, family = .integers ∧ value.asInteger? = some number) ∨
      ∃ type, ∃ scalar : type.Carrier, family = .scalars type ∧ type.isOrdered = true ∧
        value = .scalar type (some scalar) := by
  cases value with
  | scalar type value =>
    cases value with
    | none => cases type <;> cases member
    | some value =>
      cases type with
      | integer kind =>
        cases member
        exact .inl ⟨value.val, rfl, rfl⟩
      | float => cases member
      | boolean | decimal | text | blob | date | time | timestamp | offsetTimestamp | uuid =>
        cases member
        exact .inr ⟨_, value, rfl, rfl, rfl⟩
  | _ => cases member

theorem compare?_integers {a b : Value} {m n : Int} (first : a.asInteger? = some m) (second : b.asInteger? = some n) :
    a.compare? b = some (Ord.compare m n) := by
  rw [compare?, first, second]

theorem compare?_scalars {type : ScalarType} (ordered : type.isOrdered = true) (a b : type.Carrier) :
    (scalar type (some a)).compare? (scalar type (some b)) = some (type.order a b) := by
  have notInteger (value : type.Carrier) : (scalar type (some value)).asInteger? = none := by
    cases type with
    | integer => cases ordered
    | _ => rfl
  rw [compare?, notInteger a, compareAlike?, dif_pos rfl, ScalarType.compare?_eq_order ordered]

/-- The scalar that a value of a type holds; in place of other values stands the scalar given. -/
def scalarOr (type : ScalarType) (other : type.Carrier) : Value → type.Carrier
  | .scalar type' (some value) => if same : type' = type then same ▸ value else other
  | _ => other

/-- The members of a family have one total order, and are compared by it. -/
theorem exists_order {member : Value} {family : Family} (some_member : member.family? = some family) :
    ∃ order : Value → Value → Ordering, Std.TransCmp order ∧ ∀ a b : Value,
      a.family? = some family → b.family? = some family → a.compare? b = some (order a b) := by
  rcases of_family? some_member with ⟨_, rfl, _⟩ | ⟨type, other, rfl, ordered, _⟩
  · refine ⟨fun a b => compare (a.asInteger?.getD 0) (b.asInteger?.getD 0),
      transCmp_on compare fun value : Value => value.asInteger?.getD 0, ?_⟩
    intro a b memberA memberB
    rcases of_family? memberA with ⟨m, _, first⟩ | ⟨_, _, absurd, _, _⟩
    · rcases of_family? memberB with ⟨n, _, second⟩ | ⟨_, _, absurd, _, _⟩
      · simp only [compare?_integers first second, first, second, Option.getD_some]
      · cases absurd
    · cases absurd
  · refine ⟨fun a b => type.order (a.scalarOr type other) (b.scalarOr type other),
      transCmp_on type.order (scalarOr type other), ?_⟩
    intro a b memberA memberB
    rcases of_family? memberA with ⟨_, absurd, _⟩ | ⟨_, x, same, _, rfl⟩
    · cases absurd
    · cases same
      rcases of_family? memberB with ⟨_, absurd, _⟩ | ⟨_, y, same, _, rfl⟩
      · cases absurd
      · cases same
        rw [compare?_scalars ordered]
        simp only [scalarOr, dite_true]

theorem Alike.symm {a b : Value} (alike : a.Alike b) : b.Alike a := ⟨alike.2 ▸ alike.1, alike.2.symm⟩

theorem Alike.trans {a b c : Value} (alike : a.Alike b) (next : b.Alike c) : a.Alike c :=
  ⟨alike.1, alike.2.trans next.2⟩

theorem Alike.exists_order {a b : Value} (alike : a.Alike b) :
    ∃ order : Value → Value → Ordering, Std.TransCmp order ∧ ∀ x y : Value,
      a.Alike x → a.Alike y → x.compare? y = some (order x y) := by
  obtain ⟨family, member⟩ := Option.isSome_iff_exists.mp alike.1
  obtain ⟨order, total, compared⟩ := Value.exists_order member
  refine ⟨order, total, fun x y first second => ?_⟩
  exact compared x y (first.2.symm.trans member) (second.2.symm.trans member)

/-- Within a family there is an order. -/
theorem Alike.isSome_compare? {a b : Value} (alike : a.Alike b) : (a.compare? b).isSome = true := by
  obtain ⟨order, _, compared⟩ := alike.exists_order
  rw [compared a b ⟨alike.1, rfl⟩ alike]
  rfl

theorem Alike.compare?_swap {a b : Value} (alike : a.Alike b) :
    b.compare? a = (a.compare? b).map Ordering.swap := by
  obtain ⟨order, total, compared⟩ := alike.exists_order
  rw [compared a b ⟨alike.1, rfl⟩ alike, compared b a alike ⟨alike.1, rfl⟩]
  exact congrArg some Std.OrientedCmp.eq_swap

/-- Within a family the order is transitive. -/
theorem Alike.compare?_trans {a b c : Value} (alike : a.Alike b) (next : b.Alike c)
    (first : a.compare? b ≠ some .gt) (second : b.compare? c ≠ some .gt) : a.compare? c ≠ some .gt := by
  obtain ⟨order, total, compared⟩ := alike.exists_order
  have self : a.Alike a := ⟨alike.1, rfl⟩
  have last := alike.trans next
  rw [compared a b self alike, ne_eq, Option.some.injEq, ← Ordering.isLE_iff_ne_gt] at first
  rw [compared b c alike last, ne_eq, Option.some.injEq, ← Ordering.isLE_iff_ne_gt] at second
  rw [compared a c self last, ne_eq, Option.some.injEq, ← Ordering.isLE_iff_ne_gt]
  exact Std.TransCmp.isLE_trans first second

theorem asDouble?_of_not_isNumeric {value : Value} (other : value.kind.isNumeric = false) :
    value.asDouble? = none := by
  cases value with
  | scalar type value =>
    cases type with
    | integer | float | decimal => cases other
    | _ => rfl
  | _ => rfl

theorem compareAlike?_of_not_alike {a b : Value} (strange : ¬ a.Alike b) : a.compareAlike? b = none := by
  unfold compareAlike?
  split
  · rename_i type x other y
    split
    · rename_i same
      cases same
      cases type with
      | integer | float => rfl
      | _ => exact absurd ⟨rfl, rfl⟩ strange
    · rfl
  · rfl

/-- Between families numbers are compared as doubles, and nothing else is. -/
theorem compare?_of_not_alike {a b : Value} (strange : ¬ a.Alike b) : a.compare? b = a.compareDoubles? b := by
  have notIntegers (m n : Int) : ¬ (a.asInteger? = some m ∧ b.asInteger? = some n) := by
    rintro ⟨first, second⟩
    unfold asInteger? at first second
    split at first
    · split at second
      · exact strange ⟨rfl, rfl⟩
      · cases second
    · cases first
  have numbersOnly : (if a.kind.isNumeric && b.kind.isNumeric then a.compareDoubles? b else none) =
      a.compareDoubles? b := by
    split
    · rfl
    · rename_i other
      rcases Bool.and_eq_false_iff.mp (Bool.eq_false_iff.mpr other) with first | second
      · simp [compareDoubles?, asDouble?_of_not_isNumeric first]
      · simp [compareDoubles?, asDouble?_of_not_isNumeric second]
  rw [compare?, compareAlike?_of_not_alike strange]
  split
  · rename_i m n first second
    exact absurd ⟨first, second⟩ (notIntegers m n)
  · exact numbersOnly

theorem compareDoubles?_swap (a b : Value) : b.compareDoubles? a = (a.compareDoubles? b).map Ordering.swap := by
  rw [compareDoubles?_eq, compareDoubles?_eq]
  cases a.place? with
  | none => cases b.place? <;> rfl
  | some m =>
    cases b.place? with
    | none => rfl
    | some n => exact congrArg some Std.OrientedOrd.eq_swap

/-- The other way around, values have the opposite order. -/
theorem compare?_swap (a b : Value) : b.compare? a = (a.compare? b).map Ordering.swap := by
  by_cases alike : a.Alike b
  · exact alike.compare?_swap
  · rw [compare?_of_not_alike alike, compare?_of_not_alike fun other => alike other.symm]
    exact compareDoubles?_swap a b

/-- Whether a member of a family stands among the doubles is a matter of the family. -/
theorem isSome_place? {value : Value} {family : Family} (member : value.family? = some family) :
    value.place?.isSome = family.isNumeric := by
  have number {double : Binary .double} (asDouble : value.asDouble? = some double) (real : double.isNaN = false) :
      value.place?.isSome = true := by
    simp [place?, asDouble, real]
  rcases of_family? member with ⟨m, rfl, integer⟩ | ⟨type, x, rfl, ordered, rfl⟩
  · unfold asInteger? at integer
    split at integer
    · exact number rfl (Binary.isNaN_round ..)
    · cases integer
  · cases type with
    | integer | float => cases ordered
    | decimal =>
      refine number rfl ?_
      unfold DecimalFloat.toDouble
      split
      · exact Binary.isNaN_round ..
      · exact Binary.isNaN_ofMagnitude ..
    | boolean | text | blob | date | time | timestamp | offsetTimestamp | uuid => rfl

/-- Two values have an order if they are of one family, or are numbers both. -/
theorem isSome_compare?_iff (a b : Value) :
    (a.compare? b).isSome = true ↔ a.Alike b ∨ (a.place?.isSome = true ∧ b.place?.isSome = true) := by
  by_cases alike : a.Alike b
  · simp only [alike, alike.isSome_compare?, true_or]
  · rw [compare?_of_not_alike alike, compareDoubles?_eq]
    cases a.place? <;> cases b.place? <;> simp [alike]

/-- What is ordered with a value has an order with what else is ordered with it. -/
theorem isSome_compare?_trans {a b c : Value} (first : (a.compare? b).isSome = true)
    (second : (b.compare? c).isSome = true) : (a.compare? c).isSome = true := by
  rw [isSome_compare?_iff] at *
  have carried {x y : Value} (alike : x.Alike y) : x.place?.isSome = y.place?.isSome := by
    obtain ⟨family, member⟩ := Option.isSome_iff_exists.mp alike.1
    rw [isSome_place? member, isSome_place? (alike.2.symm.trans member)]
  rcases first with alike | ⟨placeA, placeB⟩
  · rcases second with next | ⟨placeB, placeC⟩
    · exact .inl (alike.trans next)
    · exact .inr ⟨(carried alike).trans placeB, placeC⟩
  · rcases second with next | ⟨_, placeC⟩
    · exact .inr ⟨placeA, (carried next).symm.trans placeB⟩
    · exact .inr ⟨placeA, placeC⟩

/-- Of two ordered values a third one that is no null has no order with either. -/
structure Unplaced (high low between : Value) : Prop where
  apart : high.compare? low = some .gt
  present : between.isNull = false
  notBelow : between.compare? high = none
  notAbove : between.compare? low = none

/-- Two values of one family and a number of another, whose double is between the doubles of the two, when these are
not in the order of the two values. -/
structure Misrounded (high low between : Value) : Prop where
  alike : high.Alike low
  strange : ¬ high.Alike between
  exactly : high.compare? low ≠ some .lt
  rounded : high.compareDoubles? low ≠ high.compare? low
  below : (high.compareDoubles? between).any Ordering.isLE = true
  above : (between.compareDoubles? low).any Ordering.isLE = true

/-- Whether some of these values are in the way of an order of all of them. -/
def Muddled (values : List Value) : Prop :=
  ∃ high ∈ values, ∃ low ∈ values, ∃ between ∈ values, high.Unplaced low between ∨ high.Misrounded low between

instance (high low between : Value) : Decidable (high.Unplaced low between) :=
  decidable_of_iff (high.compare? low = some .gt ∧ between.isNull = false ∧ between.compare? high = none ∧
    between.compare? low = none)
    ⟨fun ⟨apart, present, notBelow, notAbove⟩ => ⟨apart, present, notBelow, notAbove⟩,
      fun unplaced => ⟨unplaced.apart, unplaced.present, unplaced.notBelow, unplaced.notAbove⟩⟩

instance (high low between : Value) : Decidable (high.Misrounded low between) :=
  decidable_of_iff (high.Alike low ∧ ¬ high.Alike between ∧ high.compare? low ≠ some .lt ∧
    high.compareDoubles? low ≠ high.compare? low ∧ (high.compareDoubles? between).any Ordering.isLE = true ∧
    (between.compareDoubles? low).any Ordering.isLE = true)
    ⟨fun ⟨alike, strange, exactly, rounded, below, above⟩ => ⟨alike, strange, exactly, rounded, below, above⟩,
      fun misrounded => ⟨misrounded.alike, misrounded.strange, misrounded.exactly, misrounded.rounded,
        misrounded.below, misrounded.above⟩⟩

instance (values : List Value) : Decidable (Muddled values) :=
  inferInstanceAs (Decidable (∃ high ∈ values, ∃ low ∈ values, ∃ between ∈ values,
    high.Unplaced low between ∨ high.Misrounded low between))

/-- Values of different families with an order are compared by their places. -/
theorem exists_places {a b : Value} (strange : ¬ a.Alike b) (known : (a.compare? b).isSome = true) :
    ∃ m n, a.place? = some m ∧ b.place? = some n ∧ a.compare? b = some (compare m n) := by
  rcases (isSome_compare?_iff a b).mp known with alike | ⟨placeA, placeB⟩
  · exact absurd alike strange
  · obtain ⟨m, first⟩ := Option.isSome_iff_exists.mp placeA
    obtain ⟨n, second⟩ := Option.isSome_iff_exists.mp placeB
    refine ⟨m, n, first, second, ?_⟩
    rw [compare?_of_not_alike strange, compareDoubles?_eq, first, second]
    rfl

theorem compareDoubles?_places {a b : Value} {m n : Int} (first : a.place? = some m) (second : b.place? = some n) :
    a.compareDoubles? b = some (compare m n) := by
  rw [compareDoubles?_eq, first, second]
  rfl

theorem isLE_compareDoubles?_iff (a b : Value) : (a.compareDoubles? b).any Ordering.isLE = true ↔
    ∃ m n, a.place? = some m ∧ b.place? = some n ∧ m ≤ n := by
  rw [compareDoubles?_eq]
  cases a.place? with
  | none => simp
  | some m =>
    cases b.place? with
    | none => simp
    | some n => simp [Ordering.isLE_iff_ne_gt, compare_gt_iff_gt]

theorem Misrounded.of_places {high low between : Value} {i j k : Int} (placeHigh : high.place? = some i)
    (placeBetween : between.place? = some j) (placeLow : low.place? = some k) (below : i ≤ j) (above : j ≤ k)
    (alike : high.Alike low) (strange : ¬ high.Alike between) (exactly : high.compare? low ≠ some .lt)
    (rounded : some (compare i k) ≠ high.compare? low) : high.Misrounded low between where
  alike := alike
  strange := strange
  exactly := exactly
  rounded := by rwa [compareDoubles?_places placeHigh placeLow]
  below := (isLE_compareDoubles?_iff high between).mpr ⟨i, j, placeHigh, placeBetween, below⟩
  above := (isLE_compareDoubles?_iff between low).mpr ⟨j, k, placeBetween, placeLow, above⟩

theorem not_greater_swap {a b : Value} (notGreater : a.compare? b ≠ some .gt) : b.compare? a ≠ some .lt := by
  intro less
  rw [compare?_swap, less] at notGreater
  exact notGreater rfl

/-- Three values that all have orders go round in a circle only if one comparison is exact, and only if rounding puts
the third value between the two others although they are not in that order. -/
theorem misrounded_of_circle {a b c : Value} (knownFirst : (a.compare? b).isSome = true)
    (knownSecond : (b.compare? c).isSome = true) (first : a.compare? b ≠ some .gt)
    (second : b.compare? c ≠ some .gt) (back : a.compare? c = some .gt) :
    b.Misrounded a c ∨ c.Misrounded b a ∨ a.Misrounded c b := by
  have knownBack : (a.compare? c).isSome = true := by rw [back]; rfl
  by_cases ab : a.Alike b
  · have bc : ¬ b.Alike c := fun next => ab.compare?_trans next first second back
    obtain ⟨j, k, placeB, placeC, compared⟩ := exists_places bc knownSecond
    obtain ⟨i, _, placeA, same, far⟩ := exists_places (fun ac => bc (ab.symm.trans ac)) knownBack
    obtain rfl := Option.some.inj (placeC.symm.trans same)
    rw [compared, ne_eq, Option.some.injEq, compare_gt_iff_gt] at second
    rw [far, Option.some.injEq, compare_gt_iff_gt] at back
    refine .inl (.of_places placeB placeC placeA (by omega) (by omega) ab.symm bc (not_greater_swap first) ?_)
    rw [compare_lt_iff_lt.mpr (by omega)]
    exact (not_greater_swap first).symm
  · obtain ⟨i, j, placeA, placeB, compared⟩ := exists_places ab knownFirst
    rw [compared, ne_eq, Option.some.injEq, compare_gt_iff_gt] at first
    by_cases bc : b.Alike c
    · obtain ⟨_, k, same, placeC, far⟩ := exists_places (fun ac => ab (ac.trans bc.symm)) knownBack
      obtain rfl := Option.some.inj (placeA.symm.trans same)
      rw [far, Option.some.injEq, compare_gt_iff_gt] at back
      refine .inr (.inl (.of_places placeC placeA placeB (by omega) (by omega) bc.symm
        (fun ca => ab (bc.trans ca).symm) (not_greater_swap second) ?_))
      rw [compare_lt_iff_lt.mpr (by omega)]
      exact (not_greater_swap second).symm
    · obtain ⟨_, k, same, placeC, compared⟩ := exists_places bc knownSecond
      obtain rfl := Option.some.inj (placeB.symm.trans same)
      rw [compared, ne_eq, Option.some.injEq, compare_gt_iff_gt] at second
      by_cases ac : a.Alike c
      · refine .inr (.inr (.of_places placeA placeB placeC (by omega) (by omega) ac ab (by simp [back]) ?_))
        rw [back, ne_eq, Option.some.injEq, compare_gt_iff_gt]
        omega
      · -- Places alone do not go round in a circle.
        obtain ⟨_, _, sameA, sameC, far⟩ := exists_places ac knownBack
        obtain rfl := Option.some.inj (placeA.symm.trans sameA)
        obtain rfl := Option.some.inj (placeC.symm.trans sameC)
        rw [far, Option.some.injEq, compare_gt_iff_gt] at back
        omega

/-- What is in the way when three values go round in a circle. -/
theorem muddle_of_circle {a b c : Value} (present : b.isNull = false) (first : a.compare? b ≠ some .gt)
    (second : b.compare? c ≠ some .gt) (back : a.compare? c = some .gt) :
    a.Unplaced c b ∨ b.Misrounded a c ∨ c.Misrounded b a ∨ a.Misrounded c b := by
  have knownBack : (a.compare? c).isSome = true := by rw [back]; rfl
  have turned (x y : Value) : (y.compare? x).isSome = (x.compare? y).isSome := by
    rw [compare?_swap, Option.isSome_map]
  by_cases known : (a.compare? b).isSome = true
  · have knownSecond := isSome_compare?_trans ((turned a b).trans known) knownBack
    exact .inr (misrounded_of_circle known knownSecond first second back)
  · refine .inl ⟨back, present, ?_, ?_⟩
    · rw [compare?_swap, Option.not_isSome_iff_eq_none.mp known]
      rfl
    · rw [← Option.not_isSome_iff_eq_none]
      intro other
      exact known (isSome_compare?_trans knownBack ((turned b c).trans other))

theorem Unplaced.circle {high low between : Value} (unplaced : high.Unplaced low between) :
    high.compare? between ≠ some .gt ∧ between.compare? low ≠ some .gt ∧ high.compare? low = some .gt := by
  refine ⟨?_, ?_, unplaced.apart⟩
  · rw [compare?_swap, unplaced.notBelow]
    nofun
  · rw [unplaced.notAbove]
    nofun

theorem isNull_of_place? {value : Value} {place : Int} (placed : value.place? = some place) :
    value.isNull = false := by
  cases value with
  | scalar type value =>
    cases value with
    | none => cases type <;> cases placed
    | some => rfl
  | _ => cases placed

theorem isNull_of_alike {a b : Value} (alike : a.Alike b) : a.isNull = false := by
  obtain ⟨family, member⟩ := Option.isSome_iff_exists.mp alike.1
  unfold family? at member
  split at member
  · rfl
  · rfl
  · cases member

/-- Nulls have no order. -/
theorem compare?_of_isNull {a : Value} (null : a.isNull = true) (b : Value) : a.compare? b = none := by
  rw [← Option.not_isSome_iff_eq_none, isSome_compare?_iff]
  rintro (alike | ⟨placed, _⟩)
  · simp [isNull_of_alike alike] at null
  · obtain ⟨place, placed⟩ := Option.isSome_iff_exists.mp placed
    simp [isNull_of_place? placed] at null

theorem isNull_of_compare? {a b : Value} {order : Ordering} (ordered : a.compare? b = some order) :
    a.isNull = false ∧ b.isNull = false := by
  constructor
  · rw [← Bool.not_eq_true]
    intro null
    rw [compare?_of_isNull null] at ordered
    cases ordered
  · rw [← Bool.not_eq_true]
    intro null
    rw [compare?_swap, compare?_of_isNull null] at ordered
    cases ordered

/-- Two equal values that are rounded apart make a circle that starts with the one whose double is greater, or with the
third number. -/
theorem Misrounded.circle {high low between : Value} (misrounded : high.Misrounded low between) :
    ∃ a ∈ [high, low, between], ∃ b ∈ [high, low, between], ∃ c ∈ [high, low, between],
      b.isNull = false ∧ a.compare? b ≠ some .gt ∧ b.compare? c ≠ some .gt ∧ a.compare? c = some .gt := by
  obtain ⟨i, j, placeHigh, placeBetween, below⟩ := (isLE_compareDoubles?_iff high between).mp misrounded.below
  obtain ⟨_, k, same, placeLow, above⟩ := (isLE_compareDoubles?_iff between low).mp misrounded.above
  obtain rfl := Option.some.inj (placeBetween.symm.trans same)
  have strange : ¬ between.Alike low := fun alike => misrounded.strange (misrounded.alike.trans alike.symm)
  have highBetween : high.compare? between = some (compare i j) := by
    rw [compare?_of_not_alike misrounded.strange, compareDoubles?_places placeHigh placeBetween]
  have betweenLow : between.compare? low = some (compare j k) := by
    rw [compare?_of_not_alike strange, compareDoubles?_places placeBetween placeLow]
  have rounded := misrounded.rounded
  rw [compareDoubles?_places placeHigh placeLow] at rounded
  obtain ⟨order, exactly⟩ := Option.isSome_iff_exists.mp misrounded.alike.isSome_compare?
  cases order with
  | lt => exact absurd exactly misrounded.exactly
  | gt =>
    refine ⟨high, by simp, between, by simp, low, by simp, isNull_of_place? placeBetween, ?_, ?_, exactly⟩
    · simpa [highBetween, compare_gt_iff_gt] using below
    · simpa [betweenLow, compare_gt_iff_gt] using above
  | eq =>
    have swapped : low.compare? high = some .eq := by rw [compare?_swap, exactly]; rfl
    rw [exactly, ne_eq, Option.some.injEq, compare_eq_iff_eq] at rounded
    by_cases less : i < j
    · refine ⟨between, by simp, low, by simp, high, by simp, isNull_of_place? placeLow, ?_, by simp [swapped], ?_⟩
      · simpa [betweenLow, compare_gt_iff_gt] using above
      · rw [compare?_swap, highBetween, compare_lt_iff_lt.mpr less]
        rfl
    · refine ⟨low, by simp, high, by simp, between, by simp, isNull_of_place? placeHigh, by simp [swapped], ?_, ?_⟩
      · simpa [highBetween, compare_gt_iff_gt] using below
      · rw [compare?_swap, betweenLow, compare_lt_iff_lt.mpr (by omega)]
        rfl

/-- Values go round in a circle just when some of them are in the way of an order. -/
theorem muddled_iff (values : List Value) : Muddled values ↔
    ∃ a ∈ values, ∃ b ∈ values, ∃ c ∈ values,
      b.isNull = false ∧ a.compare? b ≠ some .gt ∧ b.compare? c ≠ some .gt ∧ a.compare? c = some .gt := by
  constructor
  · rintro ⟨high, inHigh, low, inLow, between, inBetween, unplaced | misrounded⟩
    · exact ⟨high, inHigh, between, inBetween, low, inLow, unplaced.present, unplaced.circle⟩
    · have members : ∀ value ∈ [high, low, between], value ∈ values := by simp [inHigh, inLow, inBetween]
      obtain ⟨a, inA, b, inB, c, inC, circle⟩ := misrounded.circle
      exact ⟨a, members a inA, b, members b inB, c, members c inC, circle⟩
  · rintro ⟨a, inA, b, inB, c, inC, present, first, second, back⟩
    rcases muddle_of_circle present first second back with unplaced | misrounded | misrounded | misrounded
    · exact ⟨a, inA, c, inC, b, inB, .inl unplaced⟩
    · exact ⟨b, inB, a, inA, c, inC, .inr misrounded⟩
    · exact ⟨c, inC, b, inB, a, inA, .inr misrounded⟩
    · exact ⟨a, inA, c, inC, b, inB, .inr misrounded⟩

end Value

end Polystore
