import Polystore.Number.Power
import Polystore.Number.Word

/-!
Decimal numbers: a sign, a coefficient below 2^96 and a scale of at most 28 places. The scale is part of
the value that is written, and no part of the number that is compared.
-/
namespace Polystore

def Decimal.capacity : Nat := 0x1000000000000000000000000

/-- The number `± coefficient / 10 ^ scale`. -/
structure Decimal where
  negative : Bool
  coefficient : Nat
  scale : Nat
  coefficient_lt : coefficient < Decimal.capacity
  scale_le : scale ≤ 28
deriving DecidableEq

namespace Decimal

def maxScale : Nat := 28

/-- The decimal with these parts, if the coefficient and the scale are in range. -/
def ofParts? (negative : Bool) (coefficient scale : Nat) : Option Decimal :=
  if h : coefficient < capacity ∧ scale ≤ 28 then some ⟨negative, coefficient, scale, h.1, h.2⟩ else none

/-- The decimal with these parts, a zero without its sign. -/
def ofMagnitude? (negative : Bool) (coefficient scale : Nat) : Option Decimal :=
  ofParts? (negative && coefficient ≠ 0) coefficient scale

def signed (x : Decimal) : Int := if x.negative then -(x.coefficient : Int) else x.coefficient

def compare (x y : Decimal) : Ordering := Ord.compare (x.signed * tenTo y.scale) (y.signed * tenTo x.scale)

def same (x y : Decimal) : Bool := x.compare y = .eq

def isInteger (x : Decimal) : Bool := x.coefficient % tenTo x.scale = 0

def truncate (x : Decimal) : Int :=
  let whole : Int := (x.coefficient / tenTo x.scale : Nat)
  if x.negative then -whole else whole

/-- The number without the zeros at the end of its places. -/
def dropZeros (coefficient : Nat) : (scale : Nat) → Nat × Nat
  | 0 => (coefficient, 0)
  | scale + 1 =>
    if coefficient % 10 = 0 then dropZeros (coefficient / 10) scale else (coefficient, scale + 1)

/-- The decimal of an integer that has 64 bits or fewer. -/
def ofWord {kind : IntKind} (word : Word kind) : Decimal :=
  ⟨decide (word.val < 0), word.val.natAbs, 0, by
    have lower := word.fits.1
    have upper := word.fits.2
    unfold capacity
    cases kind <;> simp [IntKind.least, IntKind.greatest] at lower upper <;> omega, by omega⟩

/-- The text of a decimal: a point stands before the last `scale` digits. -/
def text (x : Decimal) : String :=
  let digits := Nat.toDigits 10 x.coefficient
  let padded := List.replicate (x.scale + 1 - digits.length) '0' ++ digits
  let whole := padded.take (padded.length - x.scale)
  let fraction := padded.drop (padded.length - x.scale)
  String.ofList
    ((if x.negative then ['-'] else []) ++ whole ++ if x.scale = 0 then [] else '.' :: fraction)

end Decimal

end Polystore
