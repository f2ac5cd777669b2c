import Polystore.Text.Bytes
import Polystore.Text.Quoted

/-!
Bytes as pairs of hexadecimal digits. Writing uses small letters; reading takes either case and refuses an
odd number of digits before it looks at any of them.
-/
namespace Polystore.Text.Hex

def digit (n : Nat) : Char := Nat.digitChar n

def digitValue? (c : Char) : Option Nat :=
  if '0' ≤ c && c ≤ '9' then some (c.toNat - '0'.toNat)
  else if 'a' ≤ c && c ≤ 'f' then some (c.toNat - 'a'.toNat + 10)
  else if 'A' ≤ c && c ≤ 'F' then some (c.toNat - 'A'.toNat + 10)
  else none

def byteDigits (b : UInt8) : List Char := [digit (b.toNat / 16), digit (b.toNat % 16)]

def encode (bytes : List UInt8) : String := String.ofList (bytes.flatMap byteDigits)

/-- Why a text is no sequence of bytes. -/
inductive Error where
  | oddLength
  /-- A character that is no digit, as the byte it begins with, and the position of that byte. -/
  | invalidDigit (byte : UInt8) (position : Nat)
deriving Repr, DecidableEq

/-- The wording of an error; the byte is shown as the character with its number. -/
def Error.message : Error → String
  | .oddLength => "Odd number of digits"
  | .invalidDigit byte position =>
    "Invalid character " ++ quotedSingle (Char.ofNat byte.toNat) ++ " at position " ++ toString position

/-- The value of the digit that a byte of text stands for. -/
def nibble (byte : UInt8) (position : Nat) : Except Error Nat :=
  match digitValue? (Char.ofNat byte.toNat) with
  | some value => .ok value
  | none => .error (.invalidDigit byte position)

/-- Reads pairs of digits, `position` bytes of text behind the reader already. -/
def decodePairs (position : Nat) : List UInt8 → Except Error (List UInt8)
  | [] => .ok []
  | [_] => .error .oddLength
  | high :: low :: rest => do
    let h ← nibble high position
    let l ← nibble low (position + 1)
    let bytes ← decodePairs (position + 2) rest
    return UInt8.ofNat (h * 16 + l) :: bytes

def decode (text : String) : Except Error (List UInt8) :=
  let bytes := bytesOf text
  if bytes.length % 2 = 1 then .error .oddLength else decodePairs 0 bytes

end Polystore.Text.Hex
