import Polystore.Text.Hex
import Polystore.Text.Split

/-!
Addresses of 128 bits in the text form that urls put between brackets: eight groups of hexadecimal digits,
of which one run of zeros may be left out and the last two may be written as four decimal numbers. The
written form leaves out the longest run of at least two zeros.
-/
namespace Polystore.Address

/-- The value of a group of one to four hexadecimal digits. -/
def group? (text : List Char) : Option Nat :=
  if text.isEmpty || 4 < text.length then none
  else (text.mapM Text.Hex.digitValue?).map fun digits => digits.foldl (fun n digit => n * 16 + digit) 0

/-- The value of a decimal number below 256 without leading zeros. -/
def decimal? (text : List Char) : Option Nat :=
  if text.isEmpty || 3 < text.length || !text.all Char.isDigit || (text.head? = some '0' && text.length ≠ 1) then
    none
  else
    let n := Nat.ofDigitChars 10 text 0
    if n < 256 then some n else none

def decimals? (text : List Char) : Option (List Nat) := do
  match ← (Text.split '.' text).mapM decimal? with
  | [a, b, c, d] => some [a * 256 + b, c * 256 + d]
  | _ => none

/-- The groups between colons; the last may be decimal. -/
def groups? (decimalEnd : Bool) : List (List Char) → Option (List Nat)
  | [] => some []
  | [last] => if decimalEnd && last.contains '.' then decimals? last else (group? last).map fun n => [n]
  | part :: rest => do return (← group? part) :: (← groups? decimalEnd rest)

/-- The groups of a text, which may be empty. -/
def side? (decimalEnd : Bool) (text : List Char) : Option (List Nat) :=
  if text.isEmpty then some [] else groups? decimalEnd (Text.split ':' text)

/-- What stands before the first pair of colons, and what behind it. -/
def cutPair : List Char → List Char × Option (List Char)
  | [] => ([], none)
  | ':' :: ':' :: rest => ([], some rest)
  | c :: rest =>
    let (before, behind) := cutPair rest
    (c :: before, behind)

def read? (text : List Char) : Option (List Nat) := do
  match cutPair text with
  | (whole, none) =>
    let groups ← side? true whole
    if groups.length = 8 then some groups else none
  | (before, some behind) =>
    let front ← side? false before
    let back ← side? true behind
    if front.length + back.length ≤ 7 then
      some (front ++ List.replicate (8 - front.length - back.length) 0 ++ back)
    else none

/-- The length of the run of zeros that starts a list. -/
def zeros (groups : List Nat) : Nat := (groups.takeWhile (· = 0)).length

/-- Where the first of the longest runs of zeros starts, and its length. -/
def longestRun : List Nat → Nat × Nat
  | [] => (0, 0)
  | n :: rest =>
    let here := zeros (n :: rest)
    let (start, length) := longestRun rest
    if here ≥ length then (0, here) else (start + 1, length)

private def joined (groups : List Nat) : List Char :=
  [':'].intercalate (groups.map (Nat.toDigits 16))

def text (groups : List Nat) : List Char :=
  let (start, length) := longestRun groups
  if length < 2 then joined groups
  else joined (groups.take start) ++ "::".toList ++ joined (groups.drop (start + length))

end Polystore.Address
