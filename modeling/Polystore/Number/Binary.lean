import Polystore.Number.Rounding

/-!
Binary floating-point numbers of two widths as bit patterns, with the number that a pattern stands for and
the pattern next to a given ratio. The magnitudes of one sign are ordered like their patterns, so that the
pattern of a rounded ratio is found by counting patterns.
-/
namespace Polystore

/-- The two widths of floating-point numbers. -/
inductive FloatWidth where
  | single | double
deriving DecidableEq, Repr

namespace FloatWidth

def size : FloatWidth → Nat
  | .single => 32
  | .double => 64

/-- How many patterns there are: two to the power of their size. -/
def patterns : FloatWidth → Nat
  | .single => 0x100000000
  | .double => 0x10000000000000000

def fractionBits : FloatWidth → Nat
  | .single => 23
  | .double => 52

/-- The bit before the fraction, which patterns leave out: two to the power of the bits of the fraction. -/
def leadingBit : FloatWidth → Nat
  | .single => 0x800000
  | .double => 0x10000000000000

/-- The exponent of the least positive number, which is a power of two. -/
def unitExponent : FloatWidth → Int
  | .single => -149
  | .double => -1074

/-- The pattern of positive infinity, above all finite magnitudes. -/
def infinity : FloatWidth → Nat
  | .single => 0x7F800000
  | .double => 0x7FF0000000000000

/-- The pattern of the negative zero, which is the sign bit alone. -/
def signBit : FloatWidth → Nat
  | .single => 0x80000000
  | .double => 0x8000000000000000

end FloatWidth

/-- A floating-point number of the given width, as its pattern of bits. -/
structure Binary (width : FloatWidth) where
  bits : Nat
  bits_lt : bits < width.patterns
deriving DecidableEq

/-- What a pattern stands for, its sign aside. -/
inductive FloatShape where
  | notANumber
  | infinite
  /-- The number `significand * 2 ^ exponent`. -/
  | finite (significand : Nat) (exponent : Int)
deriving DecidableEq, Repr

namespace Binary

variable {width : FloatWidth}

def isNegative (x : Binary width) : Bool := width.signBit ≤ x.bits

/-- The pattern without the sign bit. -/
def magnitude (x : Binary width) : Nat := x.bits % width.signBit

def shape (x : Binary width) : FloatShape :=
  let field := x.magnitude / width.leadingBit
  let fraction := x.magnitude % width.leadingBit
  if width.infinity < x.magnitude then .notANumber
  else if x.magnitude = width.infinity then .infinite
  else if field = 0 then .finite fraction width.unitExponent
  else .finite (fraction + width.leadingBit) (width.unitExponent + field - 1)

def isNaN (x : Binary width) : Bool := width.infinity < x.magnitude

/-- The pattern with the given sign and magnitude; what is above infinity becomes infinite. -/
def ofMagnitude (width : FloatWidth) (negative : Bool) (magnitude : Nat) : Binary width :=
  ⟨(if negative then width.signBit else 0) + min magnitude width.infinity, by
    have bound : width.infinity < width.signBit := by cases width <;> decide
    have whole : width.patterns = 2 * width.signBit := by cases width <;> decide
    split <;> omega⟩

def nan (width : FloatWidth) : Binary width :=
  ⟨width.infinity + width.leadingBit / 2, by cases width <;> decide⟩

def infinite (width : FloatWidth) (negative : Bool) : Binary width :=
  ofMagnitude width negative width.infinity

def zero (width : FloatWidth) (negative : Bool) : Binary width := ofMagnitude width negative 0

/-- The ratio `num / den` in units of `2 ^ exponent`, again as a ratio. -/
def inUnits (num den : Nat) (exponent : Int) : Nat × Nat :=
  if 0 ≤ exponent then (num, den <<< exponent.toNat) else (num <<< (-exponent).toNat, den)

/-- The exponent of the last bit that a number next to `num / den` has: the least that leaves at most one
bit more than the fraction holds. -/
def lastExponent (width : FloatWidth) (num den : Nat) : Int :=
  let estimate := max width.unitExponent ((num.log2 : Int) - den.log2 - 1 - width.fractionBits)
  let ratio := inUnits num den estimate
  if 2 * width.leadingBit ≤ ratio.1 / ratio.2 then estimate + 1 else estimate

/-- The number next to `num / den` of the given sign; halves go to the even pattern. -/
def round (width : FloatWidth) (negative : Bool) (num den : Nat) : Binary width :=
  if num = 0 then zero width negative
  else
    let exponent := lastExponent width num den
    let ratio := inUnits num den exponent
    ofMagnitude width negative
      ((exponent - width.unitExponent).toNat * width.leadingBit +
        Rounding.divide .toEven ratio.1 ratio.2)

/-- The ratio of natural numbers that a finite magnitude is, none for the others. -/
def ratio? (x : Binary width) : Option (Nat × Nat) :=
  match x.shape with
  | .finite significand exponent =>
    if 0 ≤ exponent then some (significand <<< exponent.toNat, 1)
    else some (significand, 1 <<< (-exponent).toNat)
  | _ => none

def ofInt (width : FloatWidth) (n : Int) : Binary width := round width (decide (n < 0)) n.natAbs 1

/-- The number of another width next to a number. -/
def convert (target : FloatWidth) (x : Binary width) : Binary target :=
  match x.shape, x.ratio? with
  | .notANumber, _ => nan target
  | .infinite, _ => infinite target x.isNegative
  | .finite _ _, some (num, den) => round target x.isNegative num den
  | .finite _ _, none => nan target

/-- Orders the numbers of one width; both zeros have the same key. -/
def key (x : Binary width) : Int := if x.isNegative then -(x.magnitude : Int) else x.magnitude

/-- The order of two numbers, none when one of the patterns stands for no number. -/
def compare? (x y : Binary width) : Option Ordering :=
  if x.isNaN || y.isNaN then none else some (compare x.key y.key)

/-- Equality of numbers: the zeros are equal, and what is no number equals nothing. -/
def same (x y : Binary width) : Bool := x.compare? y = some .eq

end Binary

end Polystore
