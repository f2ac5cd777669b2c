import Polystore.Number.Shortest

/-!
Floating-point numbers as text: the layout of stored text, the layout of debug output, and the reader, which
takes an optional sign, digits with an optional point, an optional exponent, or a name of infinity or of what
is no number.
-/
namespace Polystore.FloatText

/-- Stored text takes the even one of two equally near digit strings; the range with a point depends on the
width. -/
def stored : FloatWidth → FloatLayout
  | .single => ⟨.toEven, -5, 13⟩
  | .double => ⟨.toEven, -4, 16⟩

/-- Debug output takes the greater one of two equally near digit strings. -/
def debug : FloatLayout := ⟨.up, -3, 16⟩

/-- The number next to `digits * 10 ^ exponent`, where far too large and far too small exponents are
settled by the count of digits alone. -/
def ofDigits (width : FloatWidth) (negative : Bool) (digits : Nat) (exponent : Int) : Binary width :=
  let position := exponent + digitCount digits
  if digits = 0 || position < -400 then Binary.zero width negative
  else if 400 < position then Binary.infinite width negative
  else Shortest.roundDigits width negative ⟨digits, exponent⟩

/-- Reads an exponent to the end; nothing at all is the exponent zero. -/
def readExponent : List Char → Option Int
  | [] => some 0
  | e :: rest =>
    if e = 'e' || e = 'E' then
      let (negative, digits) := match rest with
        | '-' :: digits => (true, digits)
        | '+' :: digits => (false, digits)
        | digits => (false, digits)
      if digits.isEmpty || !digits.all Char.isDigit then none
      else
        let value : Int := Nat.ofDigitChars 10 digits 0
        some (if negative then -value else value)
    else none

/-- Reads digits with an optional point and an optional exponent: the digits as one number and the
exponent of the last. -/
def readNumber (text : List Char) : Option (Nat × Int) :=
  let whole := text.takeWhile Char.isDigit
  let behind := text.dropWhile Char.isDigit
  let (fraction, rest) := match behind with
    | '.' :: tail => (tail.takeWhile Char.isDigit, tail.dropWhile Char.isDigit)
    | tail => ([], tail)
  if whole.isEmpty && fraction.isEmpty then none
  else (readExponent rest).map fun exponent =>
    (Nat.ofDigitChars 10 (whole ++ fraction) 0, exponent - fraction.length)

def readMagnitude (width : FloatWidth) (negative : Bool) (text : List Char) : Option (Binary width) :=
  match readNumber text with
  | some (digits, exponent) => some (ofDigits width negative digits exponent)
  | none =>
    let name := String.ofList (text.map Char.toLower)
    if name = "nan" then some (Binary.nan width)
    else if name = "inf" || name = "infinity" then some (Binary.infinite width negative)
    else none

def read (width : FloatWidth) : List Char → Option (Binary width)
  | '-' :: rest => readMagnitude width true rest
  | '+' :: rest => readMagnitude width false rest
  | text => readMagnitude width false text

end Polystore.FloatText
