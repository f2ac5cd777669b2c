import Polystore.Number.Binary
import Polystore.Number.Power

/-!
The shortest decimal digits of a binary number: the fewest digits that round to the number again, and of
several such, those next to it. The digits are then set out with a point or with an exponent, as a layout
asks.
-/
namespace Polystore

/-- The number `digits * 10 ^ exponent`. -/
structure DecimalDigits where
  digits : Nat
  exponent : Int
deriving DecidableEq, Repr

def digitCount (n : Nat) : Nat := (Nat.toDigits 10 n).length

namespace Shortest

/-- The ratio `num / den` in units of `10 ^ exponent`, again as a ratio. -/
def inUnits (num den : Nat) (exponent : Int) : Nat × Nat :=
  if 0 ≤ exponent then (num, den * tenTo exponent.toNat) else (num * tenTo (-exponent).toNat, den)

/-- The exponent `k` with `10 ^ (k - 1) ≤ num / den < 10 ^ k`. -/
def pointPosition (num den : Nat) : Int :=
  let estimate : Int := (digitCount num : Int) - digitCount den
  let ratio := inUnits num den estimate
  if ratio.2 ≤ ratio.1 then estimate + 1 else estimate

/-- The number next to `digits * 10 ^ exponent`. -/
def roundDigits (width : FloatWidth) (negative : Bool) (number : DecimalDigits) : Binary width :=
  if 0 ≤ number.exponent then Binary.round width negative (number.digits * tenTo number.exponent.toNat) 1
  else Binary.round width negative number.digits (tenTo (-number.exponent).toNat)

/-- Of the two numbers with the last digit at `10 ^ exponent` around `num / den`, the one that reads back as
`x`; the nearer if both do. -/
def candidate {width : FloatWidth} (tie : Rounding.Tie) (x : Binary width) (num den : Nat) (exponent : Int) :
    Option DecimalDigits :=
  let ratio := inUnits num den exponent
  let below := ratio.1 / ratio.2
  let readsBack (digits : Nat) : Bool := roundDigits width x.isNegative ⟨digits, exponent⟩ = x
  match readsBack below, readsBack (below + 1) with
  | true, true => some ⟨Rounding.divide tie ratio.1 ratio.2, exponent⟩
  | true, false => some ⟨below, exponent⟩
  | false, true => some ⟨below + 1, exponent⟩
  | false, false => none

/-- Tries one digit more at a time, at most `more` times, and then takes the digits below. -/
def search {width : FloatWidth} (tie : Rounding.Tie) (x : Binary width) (num den : Nat) :
    (more : Nat) → (exponent : Int) → DecimalDigits
  | 0, exponent =>
    let ratio := inUnits num den exponent
    ⟨ratio.1 / ratio.2, exponent⟩
  | more + 1, exponent =>
    match candidate tie x num den exponent with
    | some number => number
    | none => search tie x num den more (exponent - 1)

/-- How many digits write `num / 2 ^ places` exactly. -/
def exactDigitCount (num places : Nat) : Nat := digitCount (num * Nat.pow 5 places)

/-- The shortest digits of a finite magnitude above zero. -/
def digits {width : FloatWidth} (tie : Rounding.Tie) (x : Binary width) (significand : Nat) (exponent : Int) :
    DecimalDigits :=
  let ratio := Binary.inUnits significand 1 (-exponent)
  search tie x ratio.1 ratio.2 (exactDigitCount ratio.1 (-exponent).toNat)
    (pointPosition ratio.1 ratio.2 - 1)

end Shortest

/-- How the digits of a floating-point number are set out. -/
structure FloatLayout where
  /-- Which of two equally near digit strings is taken. -/
  tie : Rounding.Tie
  /-- Numbers below `10 ^ (least - 1)` get an exponent. -/
  least : Int
  /-- Numbers from `10 ^ greatest` on get an exponent. -/
  greatest : Int

namespace FloatLayout

def significantDigits (digits : Nat) : List Char :=
  ((Nat.toDigits 10 digits).reverse.dropWhile (· = '0')).reverse

/-- Digits with a point behind the first `position` of them; at least one digit stands on either side. -/
def withPoint (digits : List Char) (position : Int) : List Char :=
  if position ≤ 0 then '0' :: '.' :: (List.replicate (-position).toNat '0' ++ digits)
  else
    let whole := digits.take position.toNat
    let fraction := digits.drop position.toNat
    whole ++ List.replicate (position.toNat - digits.length) '0' ++ '.' ::
      if fraction.isEmpty then ['0'] else fraction

/-- Digits with the point behind the first of them and an exponent. -/
def withExponent (digits : List Char) (exponent : Int) : List Char :=
  let fraction := digits.drop 1
  digits.take 1 ++ (if fraction.isEmpty then [] else '.' :: fraction) ++ 'e' :: (toString exponent).toList

/-- Sets out the digits of a number above zero. -/
def setOut (layout : FloatLayout) (number : DecimalDigits) : List Char :=
  let digits := significantDigits number.digits
  let position := number.exponent + digitCount number.digits
  if layout.least ≤ position && position ≤ layout.greatest then withPoint digits position
  else withExponent digits (position - 1)

def magnitudeText {width : FloatWidth} (layout : FloatLayout) (x : Binary width) : List Char :=
  match x.shape with
  | .notANumber => "NaN".toList
  | .infinite => "inf".toList
  | .finite 0 _ => "0.0".toList
  | .finite significand exponent => layout.setOut (Shortest.digits layout.tie x significand exponent)

/-- The text of a number; what is no number has no sign. -/
def text {width : FloatWidth} (layout : FloatLayout) (x : Binary width) : String :=
  String.ofList
    (if x.isNegative && !x.isNaN then '-' :: layout.magnitudeText x else layout.magnitudeText x)

end FloatLayout

end Polystore
