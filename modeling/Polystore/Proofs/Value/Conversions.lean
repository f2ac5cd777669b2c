import Mathlib.Tactic.NormNum
import Polystore.DataType
import Polystore.Proofs.Value.Order

/-!
Conversions between integers and decimals. An integer or a decimal becomes an integer of a kind just when it is a whole
number that the kind has, and becomes that number; it becomes a decimal always, and of the same number. So a chain of
such conversions, where it goes through, arrives where the direct conversion does, and the way back leads to the number
that it started from.
-/
namespace Polystore

namespace Decimal

theorem eq_mul_tenTo (x : Decimal) : (x.signed : ℚ) = x.number * tenTo x.scale := by
  have positive : (tenTo x.scale : ℚ) ≠ 0 := by exact_mod_cast (tenTo_pos x.scale).ne'
  rw [number, div_mul_cancel₀ _ positive]

/-- A decimal is a whole number just when its places are zeros. -/
theorem isInteger_iff (x : Decimal) : x.isInteger = true ↔ ∃ n : Int, (n : ℚ) = x.number := by
  have positive : (tenTo x.scale : ℚ) ≠ 0 := by exact_mod_cast (tenTo_pos x.scale).ne'
  have magnitude : x.signed.natAbs = x.coefficient := by
    rw [signed]
    split <;> omega
  have divides : x.isInteger = true ↔ (tenTo x.scale : Int) ∣ x.signed := by
    rw [isInteger, decide_eq_true_eq, Int.natCast_dvd, magnitude, Nat.dvd_iff_mod_eq_zero]
  rw [divides]
  constructor
  · rintro ⟨n, whole⟩
    refine ⟨n, ?_⟩
    rw [number, whole, Int.cast_mul, Int.cast_natCast, mul_div_cancel_left₀ _ positive]
  · rintro ⟨n, same⟩
    refine ⟨n, ?_⟩
    have whole := x.eq_mul_tenTo
    rw [← same] at whole
    rw [mul_comm]
    exact_mod_cast whole

/-- A whole decimal loses nothing with its places. -/
theorem truncate_eq_number {x : Decimal} (whole : x.isInteger = true) : (x.truncate : ℚ) = x.number := by
  have positive : (tenTo x.scale : ℚ) ≠ 0 := by exact_mod_cast (tenTo_pos x.scale).ne'
  have divides : tenTo x.scale ∣ x.coefficient := Nat.dvd_of_mod_eq_zero (by simpa [isInteger] using whole)
  obtain ⟨quotient, coefficient⟩ := divides
  have divided : x.coefficient / tenTo x.scale = quotient := by
    rw [coefficient, Nat.mul_div_cancel_left _ (tenTo_pos x.scale)]
  rw [number, signed, truncate, divided, coefficient]
  split
  · push_cast
    rw [neg_div, mul_div_cancel_left₀ _ positive]
  · push_cast
    rw [mul_div_cancel_left₀ _ positive]

theorem number_ofWord {kind : IntKind} (word : Word kind) : (ofWord word).number = word.val := by
  have signed : (ofWord word).signed = word.val := by
    simp only [Decimal.signed, ofWord, decide_eq_true_eq]
    split <;> omega
  have scale : (ofWord word).scale = 0 := rfl
  rw [number, signed, scale, tenTo_zero, Nat.cast_one, div_one]

/-- Decimals are the same just when their numbers are. -/
theorem same_iff (x y : Decimal) : x.same y = true ↔ x.number = y.number := by
  rw [same, decide_eq_true_eq, compare_eq, compare_eq_iff_eq]

end Decimal

namespace ScalarType

/-- Whether the scalars of a type are numbers that are written exactly: integers and decimals. -/
def isExact : ScalarType → Bool
  | .integer _ | .decimal => true
  | _ => false

/-- The number that an integer or a decimal is. -/
def number? : (type : ScalarType) → type.Carrier → Option ℚ
  | .integer _, word => some word.val
  | .decimal, x => some x.number
  | _, _ => none

/-- Whether a type has a number: an integer type has the whole numbers in its range. A decimal type is taken to have
all, as no more is asked of it than what integers and decimals are. -/
def Has : ScalarType → ℚ → Prop
  | .integer kind, number => ∃ n : Int, (n : ℚ) = number ∧ kind.Fits n
  | _, _ => True

end ScalarType

namespace Value

/-- The number that a value is, if it is an integer or a decimal. -/
def number? : Value → Option ℚ
  | .scalar type (some held) => type.number? held
  | _ => none

/-- Converts a value to one type after another. -/
def convertAlong : List ScalarType → Value → Except Failure Value
  | [], value => .ok value
  | type :: rest, value => do
    let held ← type.decode value
    convertAlong rest (.scalar type (some held))

/-- What is a number is an integer or a decimal. -/
theorem of_number?_eq_some {value : Value} {number : ℚ} (isNumber : value.number? = some number) :
    (∃ (kind : IntKind) (word : Word kind), value = .word word ∧ (word.val : ℚ) = number) ∨
      ∃ x : Decimal, value = .scalar .decimal (some x) ∧ x.number = number := by
  cases value with
  | scalar type held =>
    cases held with
    | none => cases isNumber
    | some scalar =>
      cases type with
      | integer kind => exact .inl ⟨kind, scalar, rfl, Option.some.inj isNumber⟩
      | decimal => exact .inr ⟨scalar, rfl, Option.some.inj isNumber⟩
      | _ => cases isNumber
  | _ => cases isNumber

end Value

namespace Reading

theorem narrow_eq_ok_iff {kind : IntKind} {number : Int} {word : Word kind} :
    narrow kind number = .ok word ↔ word.val = number := by
  rw [narrow, ← Word.ofInt?_eq_some_iff]
  cases Word.ofInt? kind number <;> simp

theorem narrowDecimal_eq_ok_iff {kind : IntKind} {x : Decimal} {word : Word kind} :
    narrowDecimal kind x = .ok word ↔ (word.val : ℚ) = x.number := by
  unfold narrowDecimal
  split
  · rename_i whole
    rw [← Decimal.truncate_eq_number whole, Int.cast_inj, ← Word.ofInt?_eq_some_iff]
    cases Word.ofInt? kind x.truncate <;> simp
  · rename_i broken
    simp only [reduceCtorEq, false_iff]
    intro same
    exact broken ((Decimal.isInteger_iff x).mpr ⟨word.val, same⟩)

end Reading

namespace ScalarType

/-- The word that an integer or a decimal is converted to is the one of the same number. -/
theorem decode_integer_eq_ok_iff {kind : IntKind} {value : Value} {number : ℚ} (isNumber : value.number? = some number)
    (word : Word kind) : (ScalarType.integer kind).decode value = .ok word ↔ (word.val : ℚ) = number := by
  rcases Value.of_number?_eq_some isNumber with ⟨other, held, rfl, rfl⟩ | ⟨x, rfl, rfl⟩
  · have narrowed : (ScalarType.integer kind).decode (.word held) = Reading.narrow kind held.val := rfl
    rw [narrowed, Reading.narrow_eq_ok_iff, Int.cast_inj]
  · have narrowed : (ScalarType.integer kind).decode (.scalar .decimal (some x)) = Reading.narrowDecimal kind x := rfl
    rw [narrowed, Reading.narrowDecimal_eq_ok_iff]

/-- Every integer and every decimal is converted to a decimal of the same number. -/
theorem exists_decode_decimal {value : Value} {number : ℚ} (isNumber : value.number? = some number) :
    ∃ x : Decimal, ScalarType.decimal.decode value = .ok x ∧ x.number = number := by
  rcases Value.of_number?_eq_some isNumber with ⟨kind, held, rfl, rfl⟩ | ⟨x, rfl, rfl⟩
  · exact ⟨.ofWord held, rfl, Decimal.number_ofWord held⟩
  · exact ⟨x, rfl, rfl⟩

/-- A conversion keeps the number. -/
theorem number?_of_decode {type : ScalarType} (exact : type.isExact = true) {value : Value} {number : ℚ}
    (isNumber : value.number? = some number) {scalar : type.Carrier} (decoded : type.decode value = .ok scalar) :
    type.number? scalar = some number := by
  cases type with
  | integer kind => exact congrArg some ((decode_integer_eq_ok_iff isNumber scalar).mp decoded)
  | decimal =>
    obtain ⟨x, decodes, same⟩ := exists_decode_decimal isNumber
    obtain rfl := Except.ok.inj (decodes.symm.trans decoded)
    exact congrArg some same
  | _ => cases exact

/-- A conversion goes through just when the type has the number. -/
theorem exists_decode_iff {type : ScalarType} (exact : type.isExact = true) {value : Value} {number : ℚ}
    (isNumber : value.number? = some number) : (∃ scalar, type.decode value = .ok scalar) ↔ type.Has number := by
  cases type with
  | integer kind =>
    constructor
    · rintro ⟨word, decoded⟩
      exact ⟨word.val, (decode_integer_eq_ok_iff isNumber word).mp decoded, word.fits⟩
    · rintro ⟨n, same, fits⟩
      exact ⟨⟨n, fits⟩, (decode_integer_eq_ok_iff isNumber ⟨n, fits⟩).mpr same⟩
  | decimal =>
    obtain ⟨x, decodes, _⟩ := exists_decode_decimal isNumber
    exact ⟨fun _ => trivial, fun _ => ⟨x, decodes⟩⟩
  | _ => cases exact

/-- A type has the numbers that its scalars are. -/
theorem has_of_number? {type : ScalarType} {scalar : type.Carrier} {number : ℚ}
    (isNumber : type.number? scalar = some number) : type.Has number := by
  cases type with
  | integer kind => exact ⟨scalar.val, Option.some.inj isNumber, scalar.fits⟩
  | _ => exact trivial

/-- Scalars of one type are the same if they are one number, and integers then are identical. -/
theorem same_of_number? {type : ScalarType} {a b : type.Carrier} {number : ℚ} (isA : type.number? a = some number)
    (isB : type.number? b = some number) : type.same a b = true ∧ (type ≠ .decimal → a = b) := by
  cases type with
  | integer kind =>
    have same : (a.val : ℚ) = b.val := Option.some.inj (isA.trans isB.symm)
    have identical : a = b := Word.ext_val (by exact_mod_cast same)
    subst identical
    exact ⟨decide_eq_true rfl, fun _ => rfl⟩
  | decimal =>
    have same : a.number = b.number := Option.some.inj (isA.trans isB.symm)
    exact ⟨(Decimal.same_iff a b).mpr same, fun other => absurd rfl other⟩
  | _ => cases isA

end ScalarType

namespace Value

/-- A chain of conversions keeps the number. -/
theorem number?_of_convertAlong {path : List ScalarType} (exact : ∀ type ∈ path, type.isExact = true) {value : Value}
    {number : ℚ} (isNumber : value.number? = some number) {result : Value}
    (converted : convertAlong path value = .ok result) : result.number? = some number := by
  induction path generalizing value with
  | nil =>
    cases converted
    exact isNumber
  | cons type rest ih =>
    obtain ⟨first, others⟩ := List.forall_mem_cons.mp exact
    obtain ⟨scalar, decoded, further⟩ := Except.of_bind_eq_ok converted
    have kept : (Value.scalar type (some scalar)).number? = some number :=
      ScalarType.number?_of_decode first isNumber decoded
    exact ih others kept further

theorem convertAlong_append (path more : List ScalarType) (value : Value) :
    convertAlong (path ++ more) value = convertAlong path value >>= convertAlong more := by
  induction path generalizing value with
  | nil => rfl
  | cons type rest ih =>
    rw [List.cons_append, convertAlong, convertAlong]
    cases type.decode value with
    | error failure => rfl
    | ok scalar => exact ih _

theorem convertAlong_singleton (type : ScalarType) (value : Value) :
    convertAlong [type] value = (type.decode value).map fun scalar => .scalar type (some scalar) := by
  rw [convertAlong]
  cases type.decode value <;> rfl

/-- A chain of conversions that goes through arrives where the direct conversion does. -/
theorem exists_direct {path : List ScalarType} (exact : ∀ type ∈ path, type.isExact = true) {target : ScalarType}
    (exactTarget : target.isExact = true) {value result : Value} {number : ℚ} (isNumber : value.number? = some number)
    (converted : convertAlong (path ++ [target]) value = .ok result) :
    ∃ direct, convertAlong [target] value = .ok direct ∧ direct.number? = some number ∧
      result.number? = some number ∧ direct.same result = true ∧ (target ≠ .decimal → direct = result) := by
  rw [convertAlong_append] at converted
  obtain ⟨last, along, final⟩ := Except.of_bind_eq_ok converted
  have kept := number?_of_convertAlong exact isNumber along
  rw [convertAlong_singleton] at final
  obtain ⟨scalar, decoded, rfl⟩ := Except.of_map_eq_ok final
  have has := (ScalarType.exists_decode_iff exactTarget kept).mp ⟨scalar, decoded⟩
  obtain ⟨direct, decodes⟩ := (ScalarType.exists_decode_iff exactTarget isNumber).mpr has
  have isDirect := ScalarType.number?_of_decode exactTarget isNumber decodes
  have isResult := ScalarType.number?_of_decode exactTarget kept decoded
  obtain ⟨same, identical⟩ := ScalarType.same_of_number? isDirect isResult
  refine ⟨.scalar target (some direct), ?_, isDirect, isResult, ?_, ?_⟩
  · rw [convertAlong_singleton, decodes]
    rfl
  · rw [Value.same, dif_pos rfl]
    exact same
  · intro whole
    rw [identical whole]

/-- From where a chain of conversions arrives there is a way back to the number that it started from. -/
theorem exists_back {path : List ScalarType} (exact : ∀ type ∈ path, type.isExact = true) {type : ScalarType}
    (exactType : type.isExact = true) {scalar : type.Carrier} {last : Value}
    (converted : convertAlong path (.scalar type (some scalar)) = .ok last) :
    ∃ back, type.decode last = .ok back ∧ type.same back scalar = true ∧ (type ≠ .decimal → back = scalar) := by
  obtain ⟨number, isNumber⟩ : ∃ number, type.number? scalar = some number := by
    cases type with
    | integer | decimal => exact ⟨_, rfl⟩
    | _ => cases exactType
  have starts : (Value.scalar type (some scalar)).number? = some number := isNumber
  have kept := number?_of_convertAlong exact starts converted
  obtain ⟨back, decodes⟩ := (ScalarType.exists_decode_iff exactType kept).mpr (ScalarType.has_of_number? isNumber)
  obtain ⟨same, identical⟩ :=
    ScalarType.same_of_number? (ScalarType.number?_of_decode exactType kept decodes) isNumber
  exact ⟨back, decodes, same, identical⟩

/-- A conversion goes through just when the number is a whole one in the range of the kind, and keeps it. So do chains
of conversions, and they lead back. -/
theorem conversions_keep_numbers :
    (∀ (kind : IntKind) (value : Value) (number : ℚ), value.number? = some number →
      ((∃ word, (ScalarType.integer kind).decode value = .ok word) ↔ ∃ n : Int, (n : ℚ) = number ∧ kind.Fits n) ∧
      ∀ word, (ScalarType.integer kind).decode value = .ok word → (word.val : ℚ) = number) ∧
    ∀ (path : List ScalarType), (∀ type ∈ path, type.isExact = true) →
      (∀ (target : ScalarType) (value result : Value), target.isExact = true → value.number?.isSome = true →
        convertAlong (path ++ [target]) value = .ok result →
        ∃ direct, convertAlong [target] value = .ok direct ∧ direct.number? = value.number? ∧
          result.number? = value.number? ∧ direct.same result = true ∧ (target ≠ .decimal → direct = result)) ∧
      ∀ (type : ScalarType) (scalar : type.Carrier) (last : Value), type.isExact = true →
        convertAlong path (.scalar type (some scalar)) = .ok last →
        ∃ back, type.decode last = .ok back ∧ type.same back scalar = true ∧ (type ≠ .decimal → back = scalar) := by
  refine ⟨?_, fun path exact => ⟨?_, ?_⟩⟩
  · intro kind value number isNumber
    exact ⟨ScalarType.exists_decode_iff rfl isNumber,
      fun word => (ScalarType.decode_integer_eq_ok_iff isNumber word).mp⟩
  · intro target value result exactTarget isNumber converted
    obtain ⟨number, isNumber⟩ := Option.isSome_iff_exists.mp isNumber
    rw [isNumber]
    exact exists_direct exact exactTarget isNumber converted
  · intro type scalar last exactType converted
    exact exists_back exact exactType converted

/-- The decimal 12.000. -/
def dozen : Decimal := ⟨false, 12000, 3, by decide, by decide⟩

/-- The decimal 12.000 is converted to 12, by way of a byte as well as at once, and back from it. -/
theorem whole_decimal_makes_the_round :
    (∃ word, (ScalarType.integer .u64).decode (.scalar .decimal (some dozen)) = .ok word ∧ word.val = 12) ∧
    (∃ direct, convertAlong [.integer .u64] (.scalar .decimal (some dozen)) = .ok direct ∧
      direct.same (.word (⟨12, by decide⟩ : Word .u64)) = true) ∧
    ∃ back, ScalarType.decimal.decode (.word (⟨12, by decide⟩ : Word .u64)) = .ok back ∧
      ScalarType.decimal.same back dozen = true := by
  obtain ⟨whole, along⟩ := conversions_keep_numbers
  have isNumber : (Value.scalar .decimal (some dozen)).number? = some 12 := by
    norm_num [Value.number?, ScalarType.number?, Decimal.number, Decimal.signed, dozen, tenTo]
  refine ⟨?_, ?_, ?_⟩
  · obtain ⟨converts, keeps⟩ := whole .u64 _ 12 isNumber
    obtain ⟨word, decoded⟩ := converts.mpr ⟨12, by norm_num, by decide⟩
    exact ⟨word, decoded, by exact_mod_cast keeps word decoded⟩
  · obtain ⟨direct, converts, -, -, same, -⟩ :=
      (along [.integer .i8] (by simp [ScalarType.isExact])).1 (.integer .u64) (.scalar .decimal (some dozen)) _ rfl rfl
        rfl
    exact ⟨direct, converts, same⟩
  · obtain ⟨back, decodes, same, -⟩ :=
      (along [.integer .i8, .integer .u64] (by simp [ScalarType.isExact])).2 .decimal dozen _ rfl rfl
    exact ⟨back, decodes, same⟩

end Value

end Polystore
