import Polystore.Calendar.Pattern

/-!
The internet profile of timestamps with an offset, RFC 3339. Writing needs a year of four digits and an
offset in whole minutes below a day. Reading takes any ASCII character between date and time, and a
sixtieth second where one can be inserted: at the end of a month of universal time.
-/
namespace Polystore.Rfc3339

open Calendar

/-- The point and the digits of the nanoseconds, nothing for none. -/
def fraction (nanosecond : Nat) : List Char :=
  if nanosecond = 0 then [] else '.' :: subsecondDigits nanosecond

def localPattern : Pattern :=
  [.year, .literal '-', .month, .literal '-', .day, .literal 'T',
   .hour, .literal ':', .minute, .literal ':', .second]

/-- The offset, `Z` for none. -/
def offsetText (seconds : Int) : List Char :=
  if seconds = 0 then ['Z']
  else
    let minutes := seconds.natAbs / 60
    (if seconds < 0 then '-' else '+') :: (padded 2 (minutes / 60) ++ ':' :: padded 2 (minutes % 60))

def isWritable (timestamp : OffsetTimestamp) : Bool :=
  0 ≤ timestamp.localTime.date.year && timestamp.offset % 60 = 0 && timestamp.offset.natAbs < 86400

/-- The text of a timestamp, none if the profile has none. -/
def write? (timestamp : OffsetTimestamp) : Option String :=
  if isWritable timestamp then
    let parts := timestamp.localTime.parts
    some (String.ofList
      (localPattern.write parts ++ fraction parts.nanosecond ++ offsetText timestamp.offset))
  else none

/-- A given character at the front of a text. -/
def takeChar (c : Char) : List Char → Option (List Char)
  | first :: rest => if first = c then some rest else none
  | [] => none

/-- Any ASCII character at the front of a text. -/
def takeSeparator : List Char → Option (List Char)
  | first :: rest => if first.toNat < 128 then some rest else none
  | [] => none

/-- The optional fraction at the front of a text. -/
def takeFraction : List Char → Option (Nat × List Char)
  | '.' :: rest => takeSubsecond rest
  | text => some (0, text)

/-- The offset at the front of a text, in seconds. -/
def takeOffset : List Char → Option (Int × List Char)
  | 'Z' :: rest => some (0, rest)
  | 'z' :: rest => some (0, rest)
  | text => do
    let (negative, rest) ← takeSign text
    let (hours, rest) ← takeDigits 2 rest
    let rest ← takeChar ':' rest
    let (minutes, rest) ← takeDigits 2 rest
    if hours ≤ 23 && minutes ≤ 59 then
      let seconds : Int := hours * 3600 + minutes * 60
      some (if negative then -seconds else seconds, rest)
    else none

/-- Whether the second after this one is the first of a month of universal time. -/
def endsMonth (timestamp : OffsetTimestamp) : Bool :=
  let seconds := timestamp.instant / 1000000000 + 1
  let year := timestamp.localTime.date.year
  seconds % 86400 = 0 &&
    ([year - 1, year, year + 1].any fun year =>
      (List.range' 1 12).any fun month =>
        seconds / 86400 = daysBeforeYear year + daysBeforeMonth year month + 1)

def read (text : List Char) : Option OffsetTimestamp := do
  let (year, rest) ← takeDigits 4 text
  let rest ← takeChar '-' rest
  let (month, rest) ← takeDigits 2 rest
  let rest ← takeChar '-' rest
  let (day, rest) ← takeDigits 2 rest
  let rest ← takeSeparator rest
  let (hour, rest) ← takeDigits 2 rest
  let rest ← takeChar ':' rest
  let (minute, rest) ← takeDigits 2 rest
  let rest ← takeChar ':' rest
  let (second, rest) ← takeDigits 2 rest
  let (nanosecond, rest) ← takeFraction rest
  let (offset, rest) ← takeOffset rest
  let date ← Date.of? year month day
  if !rest.isEmpty then none
  else if second = 60 then
    let time ← Time.of? hour minute 59 999999999
    let timestamp ← OffsetTimestamp.of? ⟨date, time⟩ offset
    if endsMonth timestamp then some timestamp else none
  else
    let time ← Time.of? hour minute second nanosecond
    OffsetTimestamp.of? ⟨date, time⟩ offset

end Polystore.Rfc3339
