import Polystore.Proofs.Value.Order

/-!
What the order of values says within the families that columns are made of. Integers are ordered as the integers they
are, whatever their widths, decimals as the rational numbers they are, texts and bytes by the first place where they
differ, and false comes before true. Of two values of one such family one is less, or they tie.
-/
namespace Polystore

/-- The families of integers, decimals, texts, truth values and bytes. -/
def Family.plain : List Family :=
  [.integers, .scalars .decimal, .scalars .text, .scalars .boolean, .scalars .blob]

namespace Value

/-- A value that is less than another of its family. -/
inductive Less : Value → Value → Prop
  | integers {kind other : IntKind} {a : Word kind} {b : Word other} (less : a.val < b.val) : Less (word a) (word b)
  | decimals {a b : Decimal} (less : a.number < b.number) :
      Less (scalar .decimal (some a)) (scalar .decimal (some b))
  | texts {a b : String} (less : a.toList < b.toList) : Less (text a) (text b)
  | booleans : Less (boolean false) (boolean true)
  | blobs {a b : List UInt8} (less : a < b) : Less (scalar .blob (some a)) (scalar .blob (some b))

/-- Two values of a family of which neither is less. -/
inductive Ties : Value → Value → Prop
  | integers {kind other : IntKind} {a : Word kind} {b : Word other} (same : a.val = b.val) : Ties (word a) (word b)
  | decimals {a b : Decimal} (same : a.number = b.number) :
      Ties (scalar .decimal (some a)) (scalar .decimal (some b))
  | texts (a : String) : Ties (text a) (text a)
  | booleans (a : Bool) : Ties (boolean a) (boolean a)
  | blobs (a : List UInt8) : Ties (scalar .blob (some a)) (scalar .blob (some a))

theorem Less.compare? {a b : Value} (less : a.Less b) : a.compare? b = some .lt := by
  cases less with
  | integers less => exact congrArg some (compare_lt_iff_lt.mpr less)
  | @decimals a b less => exact congrArg some ((a.compare_eq b).trans (compare_lt_iff_lt.mpr less))
  | texts less => exact congrArg some ((compare_chars_eq_lt_iff _ _).mpr less)
  | booleans => rfl
  | blobs less => exact congrArg some ((compare_bytes_eq_lt_iff _ _).mpr less)

theorem Ties.compare? {a b : Value} (ties : a.Ties b) : a.compare? b = some .eq := by
  cases ties with
  | integers same => exact congrArg some (compare_eq_iff_eq.mpr same)
  | @decimals a b same => exact congrArg some ((a.compare_eq b).trans (compare_eq_iff_eq.mpr same))
  | texts a =>
    have same : compareText a a = .eq := Std.ReflCmp.compare_self (a := a.toList)
    exact congrArg some same
  | booleans a | blobs a => exact congrArg some Std.ReflCmp.compare_self

theorem Ties.symm {a b : Value} (ties : a.Ties b) : b.Ties a := by
  cases ties with
  | integers same => exact .integers same.symm
  | decimals same => exact .decimals same.symm
  | texts => exact .texts _
  | booleans => exact .booleans _
  | blobs => exact .blobs _

theorem of_family?_integers {value : Value} (member : value.family? = some .integers) :
    ∃ kind, ∃ number : Word kind, value = word number := by
  rcases of_family? member with ⟨_, _, integer⟩ | ⟨_, _, absurd, _, _⟩
  · unfold asInteger? at integer
    split at integer
    · exact ⟨_, _, rfl⟩
    · cases integer
  · cases absurd

theorem of_family?_scalars {type : ScalarType} {value : Value} (member : value.family? = some (.scalars type)) :
    ∃ scalar : type.Carrier, value = .scalar type (some scalar) := by
  rcases of_family? member with ⟨_, absurd, _⟩ | ⟨_, scalar, same, _, shape⟩
  · cases absurd
  · cases same
    exact ⟨scalar, shape⟩

/-- Of two values of a family one is less, or they tie. -/
theorem less_or_ties_or_greater {family : Family} (plain : family ∈ Family.plain) {a b : Value}
    (memberA : a.family? = some family) (memberB : b.family? = some family) : a.Less b ∨ a.Ties b ∨ b.Less a := by
  simp only [Family.plain, List.mem_cons, List.not_mem_nil, or_false] at plain
  rcases plain with rfl | rfl | rfl | rfl | rfl
  · obtain ⟨_, x, rfl⟩ := of_family?_integers memberA
    obtain ⟨_, y, rfl⟩ := of_family?_integers memberB
    rcases lt_trichotomy x.val y.val with less | same | greater
    · exact .inl (.integers less)
    · exact .inr (.inl (.integers same))
    · exact .inr (.inr (.integers greater))
  · obtain ⟨x, rfl⟩ := of_family?_scalars memberA
    obtain ⟨y, rfl⟩ := of_family?_scalars memberB
    rcases lt_trichotomy x.number y.number with less | same | greater
    · exact .inl (.decimals less)
    · exact .inr (.inl (.decimals same))
    · exact .inr (.inr (.decimals greater))
  · obtain ⟨x, rfl⟩ := of_family?_scalars memberA
    obtain ⟨y, rfl⟩ := of_family?_scalars memberB
    rcases list_trichotomy compare_chars_eq_lt_iff x.toList y.toList with less | same | greater
    · exact .inl (.texts less)
    · obtain rfl := String.toList_inj.mp same
      exact .inr (.inl (.texts x))
    · exact .inr (.inr (.texts greater))
  · obtain ⟨x, rfl⟩ := of_family?_scalars memberA
    obtain ⟨y, rfl⟩ := of_family?_scalars memberB
    cases x with
    | false =>
      cases y with
      | false => exact .inr (.inl (.booleans false))
      | true => exact .inl .booleans
    | true =>
      cases y with
      | false => exact .inr (.inr .booleans)
      | true => exact .inr (.inl (.booleans true))
  · obtain ⟨x, rfl⟩ := of_family?_scalars memberA
    obtain ⟨y, rfl⟩ := of_family?_scalars memberB
    rcases list_trichotomy compare_bytes_eq_lt_iff x y with less | rfl | greater
    · exact .inl (.blobs less)
    · exact .inr (.inl (.blobs x))
    · exact .inr (.inr (.blobs greater))

/-- Values of one family are in order. -/
theorem not_muddled_of_family {values : List Value} {family : Family}
    (members : ∀ value ∈ values, value.isNull = false → value.family? = some family) : ¬ Muddled values := by
  have alike {a b : Value} (inA : a ∈ values) (inB : b ∈ values) (presentA : a.isNull = false)
      (presentB : b.isNull = false) : a.Alike b := by
    have memberA := members a inA presentA
    exact ⟨by rw [memberA]; rfl, memberA.trans (members b inB presentB).symm⟩
  rintro ⟨high, inHigh, low, inLow, between, inBetween, unplaced | misrounded⟩
  · have present := (isNull_of_compare? unplaced.apart).1
    have ordered := (alike inBetween inHigh unplaced.present present).isSome_compare?
    rw [unplaced.notBelow] at ordered
    cases ordered
  · obtain ⟨_, _, _, placed, _⟩ := (isLE_compareDoubles?_iff high between).mp misrounded.below
    exact misrounded.strange
      (alike inHigh inBetween (isNull_of_alike misrounded.alike) (isNull_of_place? placed))

end Value

end Polystore
