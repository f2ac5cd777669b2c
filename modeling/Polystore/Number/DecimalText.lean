import Polystore.Number.Decimal
import Polystore.Number.IntegerText

/-!
Reading decimals. Digits are taken one by one while the coefficient and the scale have room; the first that
has none, behind the point, rounds half up and ends the reading. Behind it only digits and underscores may
stand, and they count for nothing. An underscore may separate digits. An exponent moves the point.
-/
namespace Polystore.DecimalText

/-- What has been read: whether a point and a digit have been seen, the coefficient and the scale. -/
structure Reading where
  pointSeen : Bool
  digitSeen : Bool
  coefficient : Nat
  scale : Nat

/-- Coefficients from here on are long: a tenth of the range of 64 bits, less a margin of one byte. -/
def longFrom : Nat := 0xffffffffffffffff / 10 - 0xff

/-- Whether the coefficient was long before its last digit. -/
def Reading.isLong (reading : Reading) : Bool := longFrom ≤ reading.coefficient / 10

def Reading.isFull (reading : Reading) : Bool := reading.pointSeen && reading.scale = Decimal.maxScale

def Reading.finish (reading : Reading) (negative : Bool) : Option Decimal :=
  if reading.digitSeen then Decimal.ofMagnitude? negative reading.coefficient reading.scale else none

/-- Raises the last place by one, which may cost that place. -/
def Reading.raise (reading : Reading) (negative : Bool) : Option Decimal :=
  let raised := reading.coefficient + 1
  if raised < Decimal.capacity then Decimal.ofMagnitude? negative raised reading.scale
  else if reading.scale = 0 then none
  else Decimal.ofMagnitude? negative ((raised + 4) / 10) (reading.scale - 1)

/-- Whether a text may stand behind the last digit that counts. -/
def isTail (text : List Char) : Bool := text.all fun c => c.isDigit || c = '_'

/-- Ends a reading before a text that has no room: where it begins with a digit from five on the last place
is raised. -/
def Reading.roundBefore (reading : Reading) (negative : Bool) (text : List Char) : Option Decimal :=
  if !isTail text then none
  else if text.head?.any fun c => c.isDigit && '5' ≤ c then reading.raise negative
  else reading.finish negative

/-- Ends a reading that is full: a long coefficient is rounded by the digit behind any underscores, another
one only by a digit that follows at once. -/
def Reading.finishFull (reading : Reading) (negative : Bool) (text : List Char) : Option Decimal :=
  reading.roundBefore negative (if reading.isLong then text.dropWhile (· = '_') else text)

/-- Reads digits, underscores and the point, to the end or to the digit that rounds. -/
def read (negative : Bool) (reading : Reading) : List Char → Option Decimal
  | [] => reading.finish negative
  | c :: rest =>
    if reading.isFull then reading.finishFull negative (c :: rest)
    else if c.isDigit then
      let coefficient := reading.coefficient * 10 + (c.toNat - '0'.toNat)
      if coefficient < Decimal.capacity then
        read negative ⟨reading.pointSeen, true, coefficient, reading.scale + reading.pointSeen.toNat⟩ rest
      else if reading.pointSeen then reading.roundBefore negative (c :: rest)
      else none
    else if c = '.' && !reading.pointSeen then read negative { reading with pointSeen := true } rest
    else if c = '_' && reading.digitSeen then read negative reading rest
    else none

def readPlain : List Char → Option Decimal
  | '-' :: rest => read true ⟨false, false, 0, 0⟩ rest
  | '+' :: rest => read false ⟨false, false, 0, 0⟩ rest
  | text => read false ⟨false, false, 0, 0⟩ text

/-- Divides a coefficient by a power of ten, halves going up. -/
def roundAway (coefficient places : Nat) : Nat := (coefficient + tenTo places / 2) / tenTo places

/-- Moves the point to the left; where the scale has no room the last places are rounded away. -/
def shrink (x : Decimal) (places : Nat) : Option Decimal :=
  if Decimal.maxScale < places then none
  else if x.scale + places ≤ Decimal.maxScale then Decimal.ofParts? x.negative x.coefficient (x.scale + places)
  else
    let coefficient := roundAway x.coefficient (x.scale + places - Decimal.maxScale)
    Decimal.ofParts? x.negative coefficient Decimal.maxScale

/-- Moves the point to the right; beyond the scale the coefficient grows, and the zeros it ends in are no
places. -/
def grow (x : Decimal) (places : Nat) : Option Decimal :=
  if places ≤ x.scale then Decimal.ofParts? x.negative x.coefficient (x.scale - places)
  else if Decimal.maxScale < places then none
  else Decimal.ofMagnitude? x.negative (x.coefficient * tenTo (places - x.scale)) 0

def readScientific (text : List Char) : Option Decimal := do
  let isMark (c : Char) : Bool := c = 'e' || c = 'E'
  let base ← readPlain (text.takeWhile fun c => !isMark c)
  let places (digits : List Char) : Option Nat :=
    match IntegerText.parse .u32 (String.ofList digits) with
    | .ok word => some word.val.toNat
    | .error _ => none
  match (text.dropWhile fun c => !isMark c).drop 1 with
  | '-' :: digits => shrink base (← places digits)
  | digits => grow base (← places digits)

def parse (text : List Char) : Option Decimal :=
  if text.any fun c => c = 'e' || c = 'E' then readScientific text else readPlain text

end Polystore.DecimalText
