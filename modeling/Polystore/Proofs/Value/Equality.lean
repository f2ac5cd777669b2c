import Mathlib.Data.List.Nodup
import Polystore.Value.Compare

/-!
What equals itself. Equality of values is structural, and it finds every value equal to itself but those that hold a
floating-point pattern which is no number. Filters compare by order where there is one, and find the same values equal
to themselves.
-/
namespace Polystore

namespace Binary

variable {width : FloatWidth}

theorem isNaN_nan (width : FloatWidth) : (nan width).isNaN = true := by cases width <;> decide

theorem isNaN_ofMagnitude (negative : Bool) (magnitude : Nat) :
    (ofMagnitude width negative magnitude).isNaN = false := by
  have bound : width.infinity < width.signBit := by cases width <;> decide
  have bits : (ofMagnitude width negative magnitude).bits =
      (if negative then width.signBit else 0) + min magnitude width.infinity := rfl
  have less : min magnitude width.infinity < width.signBit := by omega
  have small : (ofMagnitude width negative magnitude).magnitude = min magnitude width.infinity := by
    rw [Binary.magnitude, bits]
    cases negative with
    | false => rw [if_neg Bool.false_ne_true, Nat.zero_add, Nat.mod_eq_of_lt less]
    | true => rw [if_pos rfl, Nat.add_mod_left, Nat.mod_eq_of_lt less]
  rw [isNaN, small, decide_eq_false_iff_not]
  omega

theorem isNaN_round (negative : Bool) (num den : Nat) : (round width negative num den).isNaN = false := by
  unfold round zero
  split
  · apply isNaN_ofMagnitude
  · apply isNaN_ofMagnitude

theorem shape_ne_notANumber {x : Binary width} (isNumber : x.isNaN = false) : x.shape ≠ .notANumber := by
  intro shape
  unfold Binary.shape at shape
  rw [if_neg (of_decide_eq_false isNumber)] at shape
  split at shape
  · cases shape
  · split at shape <;> cases shape

/-- In another width, what is no number is none, and what is one is one. -/
theorem isNaN_convert (target : FloatWidth) (x : Binary width) : (x.convert target).isNaN = x.isNaN := by
  by_cases none : x.isNaN = true
  · have shape : x.shape = .notANumber := by
      rw [Binary.shape, if_pos (by simpa [isNaN] using none)]
    rw [none, convert, shape]
    exact isNaN_nan target
  · have shape : x.shape ≠ .notANumber := shape_ne_notANumber (Bool.eq_false_iff.mpr none)
    rw [Bool.eq_false_iff.mpr none]
    unfold convert
    split
    · contradiction
    · apply isNaN_ofMagnitude
    · apply isNaN_round
    · rename_i significand exponent finite noRatio
      -- What is finite is a ratio.
      unfold ratio? at noRatio
      rw [finite] at noRatio
      simp only at noRatio
      split at noRatio <;> cases noRatio

theorem compare?_self (x : Binary width) : x.compare? x = if x.isNaN then none else some .eq := by
  have same : compare x.key x.key = .eq := Std.ReflCmp.compare_self
  rw [compare?, Bool.or_self, same]

theorem of_compare?_self {x : Binary width} {order : Ordering} (ordered : x.compare? x = some order) :
    order = .eq ∧ x.isNaN = false := by
  rw [compare?_self] at ordered
  split at ordered
  · cases ordered
  · rename_i number
    exact ⟨(Option.some.inj ordered).symm, Bool.eq_false_iff.mpr number⟩

theorem same_self (x : Binary width) : x.same x = !x.isNaN := by
  rw [same, compare?_self]
  cases x.isNaN <;> rfl

end Binary

namespace ScalarType

/-- Whether a scalar is a floating-point pattern that is no number. -/
def isNaN : (type : ScalarType) → type.Carrier → Bool
  | .float _, value => value.isNaN
  | _, _ => false

/-- Whether the scalars of a type are ordered by the order of their type alone. -/
def isOrdered : ScalarType → Bool
  | .integer _ | .float _ => false
  | _ => true

theorem compare?_self (type : ScalarType) (value : type.Carrier) :
    type.compare? value value = if type.isOrdered then some .eq else none := by
  cases type with
  | integer | float => rfl
  | _ =>
    simp [compare?, isOrdered, Decimal.compare, compareText, Date.compare, Time.compare, Timestamp.compare,
      OffsetTimestamp.compare, Uuid.compare, Std.ReflCmp.compare_self]

theorem same_self (type : ScalarType) (value : type.Carrier) : type.same value value = !type.isNaN value := by
  cases type with
  | float width => exact value.same_self
  | decimal => simp [same, Decimal.same, Decimal.compare, isNaN, Std.ReflCmp.compare_self]
  | _ => exact decide_eq_true rfl

end ScalarType

namespace Value

mutual

/-- Whether a value holds a floating-point pattern that is no number. The hints of lists do not count. -/
def hasNaN : Value → Bool
  | .scalar type (some value) => type.isNaN value
  | .list items _ => anyNaN items
  | .map entries => anyFieldNaN entries
  | .document field => fieldNaN field
  | .documents fields => anyFieldNaN fields
  | _ => false

def anyNaN : List Value → Bool
  | [] => false
  | item :: rest => hasNaN item || anyNaN rest

def fieldNaN : Named Value → Bool
  | ⟨_, value⟩ => hasNaN value

def anyFieldNaN : List (Named Value) → Bool
  | [] => false
  | field :: rest => fieldNaN field || anyFieldNaN rest

end

mutual

/-- No map inside a value has a name twice. -/
def MapsDistinct : Value → Prop
  | .list items _ => AllMapsDistinct items
  | .map entries => Named.Distinct entries ∧ FieldMapsDistinct entries
  | .document field => InMapsDistinct field
  | .documents fields => FieldMapsDistinct fields
  | _ => True

def AllMapsDistinct : List Value → Prop
  | [] => True
  | item :: rest => MapsDistinct item ∧ AllMapsDistinct rest

def InMapsDistinct : Named Value → Prop
  | ⟨_, value⟩ => MapsDistinct value

def FieldMapsDistinct : List (Named Value) → Prop
  | [] => True
  | field :: rest => InMapsDistinct field ∧ FieldMapsDistinct rest

end

theorem hasNaN_of_isNull {value : Value} (null : value.isNull = true) : value.hasNaN = false := by
  cases value with
  | scalar type value =>
    cases value with
    | none => rfl
    | some value => cases null
  | null | nullList | nullMap => rfl
  | _ => cases null

mutual

/-- A value equals itself just when it holds numbers only. -/
theorem same_self : (value : Value) → value.MapsDistinct → value.same value = !value.hasNaN
  | .null, _ | .nullList _, _ | .nullMap, _ => by simp [same, hasNaN]
  | .scalar type none, _ => by simp [same, ScalarType.sameOption, hasNaN]
  | .scalar type (some value), _ => by simp [same, ScalarType.sameOption, hasNaN, type.same_self]
  | .list items _, distinct => by rw [same, sameItems_self items distinct, hasNaN]
  | .map entries, distinct => by
    rw [same, sameEntries_self entries distinct.1 (fun _ => id) distinct.2]
    simp [hasNaN]
  | .document field, distinct => by rw [same, sameField_self field distinct, hasNaN]
  | .documents fields, distinct => by rw [same, sameFields_self fields distinct, hasNaN]
  | .custom value, _ => by simp [same, hasNaN]

theorem sameItems_self : (items : List Value) → AllMapsDistinct items → sameItems items items = !anyNaN items
  | [], _ => by simp [sameItems, anyNaN]
  | item :: rest, distinct => by
    rw [sameItems, same_self item distinct.1, sameItems_self rest distinct.2, anyNaN, Bool.not_or]

theorem sameField_self : (field : Named Value) → InMapsDistinct field → sameField field field = !fieldNaN field
  | ⟨name, value⟩, distinct => by
    rw [sameField, same_self value distinct, fieldNaN]
    simp

theorem sameFields_self : (fields : List (Named Value)) → FieldMapsDistinct fields →
    sameFields fields fields = !anyFieldNaN fields
  | [], _ => by simp [sameFields, anyFieldNaN]
  | field :: rest, distinct => by
    rw [sameFields, sameField_self field distinct.1, sameFields_self rest distinct.2, anyFieldNaN, Bool.not_or]

/-- Each of some entries of a map finds itself under its name. -/
theorem sameEntries_self : (entries : List (Named Value)) → {others : List (Named Value)} → Named.Distinct others →
    (∀ entry ∈ entries, entry ∈ others) → FieldMapsDistinct entries → sameEntries entries others = !anyFieldNaN entries
  | [], _, _, _, _ => by simp [sameEntries, anyFieldNaN]
  | ⟨name, value⟩ :: rest, others, once, among, distinct => by
    have here : Named.find? others name = some value := Named.find?_of_mem once (among _ (List.mem_cons_self ..))
    have there (entry : Named Value) (member : entry ∈ rest) : entry ∈ others :=
      among entry (List.mem_cons_of_mem _ member)
    rw [sameEntries, sameEntry, here, sameEntries_self rest once there distinct.2, anyFieldNaN, fieldNaN, Bool.not_or]
    exact congrArg (· && !anyFieldNaN rest) (same_self value distinct.1)

end

/-- The order of values, where there is one, finds numbers equal to themselves. -/
theorem compare?_self {value : Value} {order : Ordering} (ordered : value.compare? value = some order) :
    order = .eq ∧ value.hasNaN = false := by
  cases value with
  | scalar type value =>
    cases value with
    | none =>
      cases type <;> cases ordered
    | some value =>
      cases type with
      | integer kind =>
        cases ordered
        exact ⟨Std.ReflCmp.compare_self, rfl⟩
      | float width =>
        -- Numbers are compared as doubles, which changes nothing about whether they are numbers.
        cases width with
        | single =>
          have doubles : (value.convert .double).compare? (value.convert .double) = some order := ordered
          obtain ⟨rfl, number⟩ := Binary.of_compare?_self doubles
          exact ⟨rfl, (value.isNaN_convert .double).symm.trans number⟩
        | double =>
          have doubles : value.compare? value = some order := ordered
          exact Binary.of_compare?_self doubles
      | boolean | decimal | text | blob | date | time | timestamp | offsetTimestamp | uuid =>
        have alike := ScalarType.compare?_self _ value
        rw [compare?, compareAlike?, dif_pos rfl, alike] at ordered
        exact ⟨(Option.some.inj ordered).symm, rfl⟩
  | _ => cases ordered

/-- Filters find a value equal to itself just when it holds numbers only. -/
theorem equals_self {value : Value} (distinct : value.MapsDistinct) : value.equals value = !value.hasNaN := by
  unfold equals
  rw [Bool.and_self]
  split
  · rename_i null
    rw [hasNaN_of_isNull null]
    rfl
  · cases ordered : value.compare? value with
    | none => exact same_self value distinct
    | some order =>
      obtain ⟨rfl, numbers⟩ := compare?_self ordered
      rw [numbers]
      rfl

/-- Texts are equal when they are the same. -/
theorem equals_text (a b : String) : (text a).equals (text b) = decide (a = b) := by
  have compared : (text a).equals (text b) = decide (compareText a b = .eq) := rfl
  have same : compareText a b = .eq ↔ a = b := by
    rw [compareText, Std.LawfulEqCmp.compare_eq_iff_eq, String.toList_inj]
  rw [compared, decide_eq_decide]
  exact same

end Value

end Polystore
