import Polystore.Text.Hex

/-!
Universally unique identifiers: numbers of 128 bits, written as 32 hexadecimal digits in five groups. They
are read in that form, bare, in braces or behind the name of their scheme, or as digits alone, in any case.
-/
namespace Polystore

/-- How many identifiers there are: two to the power 128. -/
def Uuid.count : Nat := 0x100000000000000000000000000000000

/-- An identifier of 128 bits. -/
structure Uuid where
  number : Nat
  number_lt : number < Uuid.count
deriving DecidableEq

namespace Uuid

def digits (uuid : Uuid) : List Char :=
  let digits := Nat.toDigits 16 uuid.number
  List.replicate (32 - digits.length) '0' ++ digits

/-- Puts hyphens between groups of eight, four, four, four and twelve characters. -/
def group (digits : List Char) : List Char :=
  digits.take 8 ++ '-' :: ((digits.drop 8).take 4 ++ '-' :: ((digits.drop 12).take 4 ++
    '-' :: ((digits.drop 16).take 4 ++ '-' :: digits.drop 20)))

def text (uuid : Uuid) : String := String.ofList (group uuid.digits)

def compare (a b : Uuid) : Ordering := Ord.compare a.number b.number

def readDigits (text : List Char) : Option Uuid := do
  let values ← text.mapM Text.Hex.digitValue?
  let number := values.foldl (fun n value => n * 16 + value) 0
  if h : number < count then some ⟨number, h⟩ else none

def readGrouped (text : List Char) : Option Uuid :=
  let digits := text.take 8 ++ (text.drop 9).take 4 ++ (text.drop 14).take 4 ++ (text.drop 19).take 4 ++
    text.drop 24
  if text.length = 36 && group digits = text then readDigits digits else none

/-- The name of the scheme, in lower case. -/
def schemeName : List Char := "urn:uuid:".toList

def read (text : List Char) : Option Uuid :=
  if text.length = 32 then readDigits text
  else if text.length = 38 && text.take 1 = ['{'] && text.drop 37 = ['}'] then
    readGrouped ((text.drop 1).take 36)
  else if text.length = 45 && (text.take 9).map Char.toLower = schemeName then readGrouped (text.drop 9)
  else readGrouped text

/-- A random identifier has the version four and the variant of the standard; this is the one whose other
bits count up to `n`. -/
def numbered (n : Nat) : Uuid := ⟨0x00000000000040008000000000000000 + n % 0x1000000000000, by
  unfold count
  omega⟩

end Uuid

end Polystore
