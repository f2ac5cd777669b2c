import Polystore.Calendar.Date

/-!
Dates, times and timestamps as lists of numbers, the largest unit first. Reading the numbers of one gives it
back.
-/
namespace Polystore

/-- Year, month and day. -/
def Date.numbers (date : Date) : List Int := [date.year, date.month, date.day]

def Date.ofNumbers? : List Int → Option Date
  | [year, month, day] => Date.of? year month.toNat day.toNat
  | _ => none

/-- Hour, minute, second and nanosecond. -/
def Time.numbers (time : Time) : List Int := [time.hour, time.minute, time.second, time.nanosecond]

def Time.ofNumbers? : List Int → Option Time
  | [hour, minute, second, nanosecond] => Time.of? hour.toNat minute.toNat second.toNat nanosecond.toNat
  | _ => none

/-- The numbers of the date, then those of the time. -/
def Timestamp.numbers (timestamp : Timestamp) : List Int := timestamp.date.numbers ++ timestamp.time.numbers

def Timestamp.ofNumbers? (numbers : List Int) : Option Timestamp := do
  return ⟨← Date.ofNumbers? (numbers.take 3), ← Time.ofNumbers? (numbers.drop 3)⟩

/-- The local numbers, then the offset. -/
def OffsetTimestamp.numbers (timestamp : OffsetTimestamp) : List Int :=
  timestamp.localTime.numbers ++ [timestamp.offset]

def OffsetTimestamp.ofNumbers? (numbers : List Int) : Option OffsetTimestamp := do
  OffsetTimestamp.of? (← Timestamp.ofNumbers? (numbers.take 7)) (← numbers[7]?)

theorem Date.ofNumbers?_numbers (date : Date) : Date.ofNumbers? date.numbers = some date := by
  simp [Date.ofNumbers?, Date.numbers, Date.of?, date.valid]

theorem Time.ofNumbers?_numbers (time : Time) : Time.ofNumbers? time.numbers = some time := by
  simp [Time.ofNumbers?, Time.numbers, Time.of?, time.valid]

theorem Timestamp.ofNumbers?_numbers (timestamp : Timestamp) :
    Timestamp.ofNumbers? timestamp.numbers = some timestamp := by
  have front : (timestamp.date.numbers ++ timestamp.time.numbers).take 3 = timestamp.date.numbers := by
    simp [Date.numbers]
  have back : (timestamp.date.numbers ++ timestamp.time.numbers).drop 3 = timestamp.time.numbers := by
    simp [Date.numbers]
  simp [Timestamp.ofNumbers?, Timestamp.numbers, front, back, Date.ofNumbers?_numbers, Time.ofNumbers?_numbers]

end Polystore
