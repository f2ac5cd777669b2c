import Polystore.Number.Binary
import Polystore.Number.Decimal

/-!
Conversions between decimals and binary floating-point numbers. A decimal becomes the sum of its whole part
and its fraction, each rounded to a double, and the sum is rounded to the decimal's places. A whole binary
number becomes a decimal if it is below the capacity of coefficients. One with a fraction becomes a decimal by
turning halves into tenths while the coefficient has room, and is then cut to the digits that its width can
vouch for.
-/
namespace Polystore.DecimalFloat

/-- A double without its sign, as a ratio of natural numbers. -/
private def ratio (x : Binary .double) : Nat × Nat := x.ratio?.getD (0, 1)

/-- The double next to a ratio of natural numbers. -/
private def double (num den : Nat) : Binary .double := Binary.round .double false num den

/-- The whole number next to a ratio, halves going away from zero. -/
private def whole (num den : Nat) : Nat := Rounding.divide .up num den

/-- The magnitude of a decimal with places, as a double. -/
def magnitude (coefficient scale : Nat) : Binary .double :=
  let power := tenTo scale
  let integral := double (coefficient / power) 1
  let divisor := ratio (double power 1)
  let dividend := ratio (double (coefficient % power) 1)
  let fraction := double (dividend.1 * divisor.2) (dividend.2 * divisor.1)
  if coefficient % power = 0 then integral
  else
    let a := ratio integral
    let b := ratio fraction
    let sum := ratio (double (a.1 * b.2 + b.1 * a.2) (a.2 * b.2))
    let product := ratio (double (sum.1 * divisor.1) (sum.2 * divisor.2))
    let rounded := ratio (double (whole product.1 product.2) 1)
    double (rounded.1 * divisor.2) (rounded.2 * divisor.1)

def toDouble (x : Decimal) : Binary .double :=
  if x.scale = 0 then Binary.ofInt .double x.signed
  else Binary.ofMagnitude .double x.negative (magnitude x.coefficient x.scale).magnitude

/-- The single of a decimal goes through its double. -/
def toSingle (x : Decimal) : Binary .single := (toDouble x).convert .single

/-- The number `coefficient / 10 ^ scale`. -/
structure Scaled where
  coefficient : Nat
  scale : Nat

/-- Multiplies by five once: a coefficient that is even, or has no room, is halved and gives up a place. -/
def Scaled.timesFive (number : Scaled) : Scaled :=
  if number.coefficient % 2 = 1 && number.coefficient * 5 < Decimal.capacity then
    ⟨number.coefficient * 5, number.scale⟩
  else ⟨number.coefficient / 2, number.scale - 1⟩

/-- The number `coefficient / 2 ^ places`: each half is five tenths. -/
def Scaled.ofHalves (coefficient places : Nat) : Scaled :=
  Nat.repeat Scaled.timesFive places ⟨coefficient, places⟩

/-- Drops the last digit, rounding half up. -/
def dropDigit (coefficient : Nat) : Nat := coefficient / 10 + if 5 ≤ coefficient % 10 then 1 else 0

/-- Drops digits until the scale fits, `excess` of them; a coefficient below ten has none to drop and becomes
a whole zero. -/
def fitScale (coefficient scale : Nat) : (excess : Nat) → Nat × Nat
  | 0 => (coefficient, scale)
  | excess + 1 =>
    if coefficient < 10 then (0, 0) else fitScale (dropDigit coefficient) (scale - 1) excess

/-- Drops digits while the coefficient is not below the limit and there are places. -/
def fitPrecision (limit coefficient : Nat) : (scale : Nat) → Nat × Nat
  | 0 => (coefficient, 0)
  | scale + 1 =>
    if coefficient < limit then (coefficient, scale + 1) else fitPrecision limit (dropDigit coefficient) scale

/-- The coefficients below which all digits of a width are vouched for. -/
def precisionLimit : FloatWidth → Nat
  | .single => 0x1000000
  | .double => 0x10000000000000

/-- The decimal of a finite magnitude: a whole one is taken as it is. -/
def ofFinite (width : FloatWidth) (negative : Bool) (significand : Nat) : (exponent : Int) → Option Decimal
  | .ofNat exponent => Decimal.ofParts? negative (significand <<< exponent) 0
  | .negSucc places =>
    let number := Scaled.ofHalves significand (places + 1)
    let (coefficient, scale) := fitScale number.coefficient number.scale (number.scale - Decimal.maxScale)
    let (coefficient, scale) := fitPrecision (precisionLimit width) coefficient scale
    let (coefficient, scale) := Decimal.dropZeros coefficient scale
    Decimal.ofParts? negative coefficient scale

/-- The decimal of a binary number, none for what is not finite or too large. -/
def ofFloat {width : FloatWidth} (x : Binary width) : Option Decimal :=
  match x.shape with
  | .finite significand exponent => ofFinite width x.isNegative significand exponent
  | _ => none

end Polystore.DecimalFloat
