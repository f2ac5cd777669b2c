/-!
Dates of the proleptic Gregorian calendar, times of day, and timestamps with and without an offset from
universal time. Each is ordered as time runs; two timestamps with offsets are equal when they name the same
instant.
-/
namespace Polystore

/-- Whether February has 29 days. -/
def isLeapYear (year : Int) : Bool := year % 4 = 0 && (year % 100 ≠ 0 || year % 400 = 0)

def daysInMonth (year : Int) (month : Nat) : Nat :=
  if month = 2 then (if isLeapYear year then 29 else 28)
  else if month = 4 || month = 6 || month = 9 || month = 11 then 30
  else 31

/-- Which numbers make a date; years have at most four digits. -/
def IsDate (year : Int) (month day : Nat) : Prop :=
  (-9999 ≤ year ∧ year ≤ 9999) ∧ (1 ≤ month ∧ month ≤ 12) ∧ (1 ≤ day ∧ day ≤ daysInMonth year month)

instance (year : Int) (month day : Nat) : Decidable (IsDate year month day) :=
  inferInstanceAs (Decidable (_ ∧ _))

/-- A day of the calendar. -/
structure Date where
  year : Int
  month : Nat
  day : Nat
  valid : IsDate year month day
deriving DecidableEq

/-- Which numbers make a time of day. -/
def IsTime (hour minute second nanosecond : Nat) : Prop :=
  hour < 24 ∧ minute < 60 ∧ second < 60 ∧ nanosecond < 1000000000

instance (hour minute second nanosecond : Nat) : Decidable (IsTime hour minute second nanosecond) :=
  inferInstanceAs (Decidable (_ ∧ _))

/-- A time of day. -/
structure Time where
  hour : Nat
  minute : Nat
  second : Nat
  nanosecond : Nat
  valid : IsTime hour minute second nanosecond
deriving DecidableEq

/-- A date with a time of day, in no particular zone. -/
structure Timestamp where
  date : Date
  time : Time
deriving DecidableEq

def IsOffset (seconds : Int) : Prop := -93600 < seconds ∧ seconds < 93600

instance (seconds : Int) : Decidable (IsOffset seconds) := inferInstanceAs (Decidable (_ ∧ _))

/-- A local timestamp with the seconds by which it is ahead of universal time. -/
structure OffsetTimestamp where
  localTime : Timestamp
  offset : Int
  valid : IsOffset offset
deriving DecidableEq

/-- The date with these numbers, if there is one. -/
def Date.of? (year : Int) (month day : Nat) : Option Date :=
  if valid : IsDate year month day then some ⟨year, month, day, valid⟩ else none

/-- The time with these numbers, if there is one. -/
def Time.of? (hour minute second nanosecond : Nat) : Option Time :=
  if valid : IsTime hour minute second nanosecond then some ⟨hour, minute, second, nanosecond, valid⟩ else none

/-- The timestamp with this offset, if the offset is one. -/
def OffsetTimestamp.of? (localTime : Timestamp) (offset : Int) : Option OffsetTimestamp :=
  if valid : IsOffset offset then some ⟨localTime, offset, valid⟩ else none

/-- A timestamp read as universal time. -/
def Timestamp.universal (timestamp : Timestamp) : OffsetTimestamp := ⟨timestamp, 0, by decide⟩

/-- The days of all years before a year, counted from the year one. -/
def daysBeforeYear (year : Int) : Int :=
  let past := year - 1
  365 * past + past / 4 - past / 100 + past / 400

def daysBeforeMonth (year : Int) : (month : Nat) → Nat
  | 0 => 0
  | month + 1 => if month = 0 then 0 else daysBeforeMonth year month + daysInMonth year month

/-- The number of a day, increasing by one from day to day. -/
def Date.number (date : Date) : Int :=
  daysBeforeYear date.year + daysBeforeMonth date.year date.month + date.day

/-- The nanoseconds since midnight. -/
def Time.number (time : Time) : Nat :=
  ((time.hour * 60 + time.minute) * 60 + time.second) * 1000000000 + time.nanosecond

/-- The nanoseconds of a timestamp, counted from a fixed midnight. -/
def Timestamp.number (timestamp : Timestamp) : Int :=
  timestamp.date.number * 86400000000000 + timestamp.time.number

/-- The instant of a timestamp with an offset, in nanoseconds. -/
def OffsetTimestamp.instant (timestamp : OffsetTimestamp) : Int :=
  timestamp.localTime.number - timestamp.offset * 1000000000

/-- The order of days. -/
def Date.compare (a b : Date) : Ordering :=
  (Ord.compare a.year b.year).then ((Ord.compare a.month b.month).then (Ord.compare a.day b.day))

def Time.compare (a b : Time) : Ordering := Ord.compare a.number b.number

def Timestamp.compare (a b : Timestamp) : Ordering :=
  (a.date.compare b.date).then (a.time.compare b.time)

def OffsetTimestamp.compare (a b : OffsetTimestamp) : Ordering := Ord.compare a.instant b.instant

end Polystore
