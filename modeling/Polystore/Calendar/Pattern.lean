import Polystore.Calendar.Date

/-!
Patterns of dates and times: sequences of fields of a fixed form and literal characters. A pattern writes
the parts it names and reads them from a text that it has to match to the end.
-/
namespace Polystore.Calendar

/-- One element of a pattern. -/
inductive Piece where
  | year | month | day | hour | minute | second
  /-- Digits behind the decimal point of a second: at least one, those after the ninth without effect. -/
  | subsecond
  /-- A sign and two digits. -/
  | offsetHour
  | offsetMinute
  | literal (c : Char)
deriving DecidableEq, Repr

abbrev Pattern := List Piece

/-- The parts that patterns name. -/
structure Parts where
  year : Int := 0
  month : Nat := 1
  day : Nat := 1
  hour : Nat := 0
  minute : Nat := 0
  second : Nat := 0
  nanosecond : Nat := 0
  offsetNegative : Bool := false
  offsetHour : Nat := 0
  offsetMinute : Nat := 0
deriving DecidableEq, Repr

/-- Exactly so many digits at the front of a text, as a number. -/
def takeDigits (count : Nat) (text : List Char) : Option (Nat × List Char) :=
  let digits := text.take count
  if digits.length = count && digits.all Char.isDigit then
    some (Nat.ofDigitChars 10 digits 0, text.drop count)
  else none

/-- A sign at the front of a text, `true` for a minus. -/
def takeSign : List Char → Option (Bool × List Char)
  | '-' :: rest => some (true, rest)
  | '+' :: rest => some (false, rest)
  | _ => none

/-- Nanoseconds from the digits behind the point, at least one. -/
def takeSubsecond (text : List Char) : Option (Nat × List Char) :=
  let digits := text.takeWhile Char.isDigit
  if digits.isEmpty then none
  else
    let nine := (digits ++ List.replicate 9 '0').take 9
    some (Nat.ofDigitChars 10 nine 0, text.dropWhile Char.isDigit)

/-- Reads one element at the front of a text. -/
def Piece.read (parts : Parts) (text : List Char) : Piece → Option (Parts × List Char)
  | .year =>
    let (negative, rest) := (takeSign text).getD (false, text)
    (takeDigits 4 rest).map fun (n, rest) =>
      ({ parts with year := if negative then -(n : Int) else n }, rest)
  | .month => (takeDigits 2 text).map fun (n, rest) => ({ parts with month := n }, rest)
  | .day => (takeDigits 2 text).map fun (n, rest) => ({ parts with day := n }, rest)
  | .hour => (takeDigits 2 text).map fun (n, rest) => ({ parts with hour := n }, rest)
  | .minute => (takeDigits 2 text).map fun (n, rest) => ({ parts with minute := n }, rest)
  | .second => (takeDigits 2 text).map fun (n, rest) => ({ parts with second := n }, rest)
  | .subsecond => (takeSubsecond text).map fun (n, rest) => ({ parts with nanosecond := n }, rest)
  | .offsetHour => do
    let (negative, rest) ← takeSign text
    let (n, rest) ← takeDigits 2 rest
    return ({ parts with offsetNegative := negative, offsetHour := n }, rest)
  | .offsetMinute => (takeDigits 2 text).map fun (n, rest) => ({ parts with offsetMinute := n }, rest)
  | .literal c =>
    match text with
    | first :: rest => if first = c then some (parts, rest) else none
    | [] => none

/-- Reads the elements of a pattern one after another; nothing may be left. -/
def Pattern.readFrom (parts : Parts) : Pattern → List Char → Option Parts
  | [], [] => some parts
  | [], _ :: _ => none
  | piece :: pattern, text => do
    let (parts, rest) ← piece.read parts text
    Pattern.readFrom parts pattern rest

/-- The parts of a text that matches the pattern. -/
def Pattern.read (pattern : Pattern) (text : List Char) : Option Parts := Pattern.readFrom {} pattern text

/-- The digits of a number, with zeros in front up to the given count. -/
def padded (count n : Nat) : List Char :=
  let digits := Nat.toDigits 10 n
  List.replicate (count - digits.length) '0' ++ digits

/-- The digits of the nanoseconds without the zeros at the end, at least one. -/
def subsecondDigits (nanosecond : Nat) : List Char :=
  match ((padded 9 nanosecond).reverse.dropWhile (· = '0')).reverse with
  | [] => ['0']
  | digits => digits

/-- A year with at least four digits, and a minus in front of a negative one. -/
def yearText (year : Int) : List Char :=
  (if year < 0 then ['-'] else []) ++ padded 4 year.natAbs

def Piece.write (parts : Parts) : Piece → List Char
  | .year => yearText parts.year
  | .month => padded 2 parts.month
  | .day => padded 2 parts.day
  | .hour => padded 2 parts.hour
  | .minute => padded 2 parts.minute
  | .second => padded 2 parts.second
  | .subsecond => subsecondDigits parts.nanosecond
  | .offsetHour => (if parts.offsetNegative then '-' else '+') :: padded 2 parts.offsetHour
  | .offsetMinute => padded 2 parts.offsetMinute
  | .literal c => [c]

/-- Writes the elements of a pattern one after another. -/
def Pattern.write (pattern : Pattern) (parts : Parts) : List Char := pattern.flatMap (Piece.write parts)

end Polystore.Calendar

namespace Polystore

open Calendar

def Calendar.Parts.date? (parts : Parts) : Option Date := Date.of? parts.year parts.month parts.day

def Calendar.Parts.time? (parts : Parts) : Option Time :=
  Time.of? parts.hour parts.minute parts.second parts.nanosecond

def Calendar.Parts.timestamp? (parts : Parts) : Option Timestamp := do
  return ⟨← parts.date?, ← parts.time?⟩

/-- The offset among the parts, in seconds; hours go up to 25 and minutes to 59. -/
def Calendar.Parts.offset? (parts : Parts) : Option Int :=
  if parts.offsetHour ≤ 25 && parts.offsetMinute ≤ 59 then
    let seconds : Int := parts.offsetHour * 3600 + parts.offsetMinute * 60
    some (if parts.offsetNegative then -seconds else seconds)
  else none

def Calendar.Parts.offsetTimestamp? (parts : Parts) : Option OffsetTimestamp := do
  OffsetTimestamp.of? (← parts.timestamp?) (← parts.offset?)

def Date.parts (date : Date) : Parts := { year := date.year, month := date.month, day := date.day }

def Time.parts (time : Time) : Parts :=
  { hour := time.hour, minute := time.minute, second := time.second, nanosecond := time.nanosecond }

def Timestamp.parts (timestamp : Timestamp) : Parts :=
  { timestamp.time.parts with
    year := timestamp.date.year, month := timestamp.date.month, day := timestamp.date.day }

end Polystore
