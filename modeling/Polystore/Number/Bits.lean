import Polystore.Number.Binary
import Polystore.Text.Hex

/-!
The bits of floating-point numbers as hexadecimal digits, the most significant first.
-/
namespace Polystore.Binary

variable {width : FloatWidth}

/-- The digits of a number, as many as its width has. -/
def bitText (x : Binary width) : String :=
  let digits := Nat.toDigits 16 x.bits
  String.ofList (List.replicate (width.size / 4 - digits.length) '0' ++ digits)

/-- The number of some digits, if the width has room for them. -/
def ofBitText? (width : FloatWidth) (text : String) : Option (Binary width) := do
  let digits ← text.toList.mapM Text.Hex.digitValue?
  let bits := digits.foldl (fun bits digit => bits * 16 + digit) 0
  if small : bits < width.patterns then some ⟨bits, small⟩ else none

end Polystore.Binary
