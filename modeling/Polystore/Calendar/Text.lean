import Polystore.Calendar.Rfc3339

/-!
The texts of dates and times: the display form, the form that stores keep, and the forms that are read,
tried one after another.
-/
namespace Polystore

open Calendar

namespace Calendar

def datePattern : Pattern := [.year, .literal '-', .month, .literal '-', .day]

def minutePattern : Pattern := [.hour, .literal ':', .minute]

def secondPattern : Pattern := minutePattern ++ [.literal ':', .second]

def timePattern : Pattern := secondPattern ++ [.literal '.', .subsecond]

def timestampPattern (separator : Char) (time : Pattern) : Pattern :=
  datePattern ++ .literal separator :: time

def offsetPattern : Pattern := [.offsetHour, .literal ':', .offsetMinute]

def dateForms : List Pattern := [datePattern]

def timeForms : List Pattern := [timePattern, secondPattern, minutePattern]

def timestampForms : List Pattern :=
  [timestampPattern 'T' timePattern, timestampPattern 'T' secondPattern,
   timestampPattern ' ' timePattern, timestampPattern ' ' secondPattern,
   timestampPattern 'T' timePattern ++ [.literal 'Z'], timestampPattern 'T' secondPattern ++ [.literal 'Z']]

/-- The patterns of a readable timestamp with an offset. -/
def offsetTimestampForms : List Pattern :=
  [timestampPattern 'T' timePattern ++ offsetPattern, timestampPattern 'T' secondPattern ++ offsetPattern,
   timestampPattern ' ' timePattern ++ offsetPattern, timestampPattern ' ' secondPattern ++ offsetPattern]

/-- What the first pattern gives that matches and whose parts make a value. -/
def firstOf {α : Type} (forms : List Pattern) (make : Parts → Option α) (text : List Char) : Option α :=
  forms.findSome? fun pattern => (pattern.read text).bind make

end Calendar

def Date.read (text : List Char) : Option Date := firstOf dateForms Parts.date? text

def Time.read (text : List Char) : Option Time := firstOf timeForms Parts.time? text

def Timestamp.read (text : List Char) : Option Timestamp := firstOf timestampForms Parts.timestamp? text

/-- Reads a timestamp with an offset; the internet profile is the last resort. -/
def OffsetTimestamp.read (text : List Char) : Option OffsetTimestamp :=
  (firstOf offsetTimestampForms Parts.offsetTimestamp? text).or (Rfc3339.read text)

def Date.text (date : Date) : String := String.ofList (datePattern.write date.parts)

/-- The display form of a time: the hour without a zero in front. -/
def Time.text (time : Time) : String :=
  String.ofList (Nat.toDigits 10 time.hour ++
    Pattern.write [.literal ':', .minute, .literal ':', .second, .literal '.', .subsecond] time.parts)

def Time.storedText (time : Time) : String := String.ofList (timePattern.write time.parts)

def Timestamp.text (timestamp : Timestamp) : String := timestamp.date.text ++ " " ++ timestamp.time.text

def Timestamp.storedText (timestamp : Timestamp) : String :=
  String.ofList ((timestampPattern 'T' timePattern).write timestamp.parts)

/-- The display form of an offset, down to the second. -/
def Calendar.offsetDisplay (seconds : Int) : String :=
  let n := seconds.natAbs
  String.ofList ((if seconds < 0 then '-' else '+') ::
    (padded 2 (n / 3600) ++ ':' :: padded 2 (n / 60 % 60) ++ ':' :: padded 2 (n % 60)))

def OffsetTimestamp.text (timestamp : OffsetTimestamp) : String :=
  timestamp.localTime.text ++ " " ++ Calendar.offsetDisplay timestamp.offset

end Polystore
