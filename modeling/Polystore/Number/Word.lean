/-!
Fixed-width integers: a kind names the width and the sign, and a word of that kind is an integer within the
kind's range. Nothing wraps: an integer either has a word of a kind or has none.
-/
namespace Polystore

/-- The eight widths and signs of integers. -/
inductive IntKind where
  | i8 | i16 | i32 | i64 | u8 | u16 | u32 | u64
deriving DecidableEq, Repr

def IntKind.values : List IntKind := [.i8, .i16, .i32, .i64, .u8, .u16, .u32, .u64]

def IntKind.least : IntKind → Int
  | .i8 => -128
  | .i16 => -32768
  | .i32 => -2147483648
  | .i64 => -9223372036854775808
  | .u8 | .u16 | .u32 | .u64 => 0

def IntKind.greatest : IntKind → Int
  | .i8 => 127
  | .i16 => 32767
  | .i32 => 2147483647
  | .i64 => 9223372036854775807
  | .u8 => 255
  | .u16 => 65535
  | .u32 => 4294967295
  | .u64 => 18446744073709551615

def IntKind.isSigned : IntKind → Bool
  | .i8 | .i16 | .i32 | .i64 => true
  | .u8 | .u16 | .u32 | .u64 => false

def IntKind.Fits (kind : IntKind) (n : Int) : Prop := kind.least ≤ n ∧ n ≤ kind.greatest

instance (kind : IntKind) (n : Int) : Decidable (kind.Fits n) :=
  inferInstanceAs (Decidable (_ ∧ _))

/-- An integer of the given kind. -/
structure Word (kind : IntKind) where
  val : Int
  fits : kind.Fits val
deriving DecidableEq

namespace Word

theorem ext_val {kind : IntKind} {a b : Word kind} (same : a.val = b.val) : a = b := by
  cases a; cases b; simp_all

/-- The word of an integer, if the kind has one. -/
def ofInt? (kind : IntKind) (n : Int) : Option (Word kind) :=
  if fits : kind.Fits n then some ⟨n, fits⟩ else none

theorem ofInt?_eq_some_iff {kind : IntKind} {n : Int} {word : Word kind} :
    ofInt? kind n = some word ↔ word.val = n := by
  unfold ofInt?
  split
  · rename_i fits
    simp only [Option.some.injEq]
    exact ⟨fun same => by subst same; rfl, fun same => ext_val same.symm⟩
  · rename_i outside
    simp only [reduceCtorEq, false_iff]
    intro same
    exact outside (same ▸ word.fits)

@[simp] theorem ofInt?_val {kind : IntKind} (word : Word kind) : ofInt? kind word.val = some word :=
  ofInt?_eq_some_iff.2 rfl

def least (kind : IntKind) : Word kind := ⟨kind.least, by cases kind <;> decide⟩

/-- The word next to an integer: the integer itself where the kind has it, else the kind's bound. -/
def clamp (kind : IntKind) (n : Int) : Word kind :=
  ⟨max kind.least (min n kind.greatest), by
    have order : kind.least ≤ kind.greatest := by cases kind <;> decide
    unfold IntKind.Fits
    omega⟩

theorem clamp_val {kind : IntKind} {n : Int} (fits : kind.Fits n) : (clamp kind n).val = n := by
  unfold IntKind.Fits at fits
  simp only [clamp]
  omega

def text {kind : IntKind} (word : Word kind) : String := toString word.val

end Word

end Polystore
