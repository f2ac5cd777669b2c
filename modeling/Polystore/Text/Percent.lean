import Polystore.Text.Hex

/-!
Percent escapes. Decoding replaces a percent sign with two hexadecimal digits by the byte they name and
leaves every other percent sign as it is; encoding escapes the bytes that a set asks for.
-/
namespace Polystore.Text.Percent

private def byteDigit? (b : UInt8) : Option Nat := Hex.digitValue? (Char.ofNat b.toNat)

def byteOf? (high low : UInt8) : Option UInt8 := do
  let h ← byteDigit? high
  let l ← byteDigit? low
  return UInt8.ofNat (h * 16 + l)

def decode : List UInt8 → List UInt8
  | first :: high :: low :: rest =>
    if first = 0x25 then
      match byteOf? high low with
      | some byte => byte :: decode rest
      | none => first :: decode (high :: low :: rest)
    else first :: decode (high :: low :: rest)
  | bytes => bytes

/-- The escape of one byte, with capital digits. -/
def escape (b : UInt8) : List Char :=
  ['%', (Hex.digit (b.toNat / 16)).toUpper, (Hex.digit (b.toNat % 16)).toUpper]

/-- One byte of a text, escaped where the set asks for it or the byte is not ASCII. -/
def encodeByte (escaped : Char → Bool) (b : UInt8) : List Char :=
  let c := Char.ofNat b.toNat
  if b < 0x80 && !escaped c then [c] else escape b

/-- A text with the characters of the set escaped, and every character that is not ASCII. -/
def encode (escaped : Char → Bool) (text : String) : String :=
  String.ofList ((bytesOf text).flatMap (encodeByte escaped))

/-- The characters that no component of an address needs to escape. -/
def isUnreserved (c : Char) : Bool := c.isAlphanum || c = '-' || c = '.' || c = '_' || c = '~'

/-- A component of an address, with everything escaped that is not unreserved. -/
def encodeComponent (text : String) : String := encode (fun c => !isUnreserved c) text

end Polystore.Text.Percent
