import Polystore.Calendar.Text
import Polystore.Proofs.Calendar.Patterns

/-!
Dates, times and timestamps come back from the texts that stores keep. The forms that are read are tried one after
another, and for a timestamp with an offset the form that was written depends on the value: whether it has a fraction
of a second, and whether it has an offset at all. None of the forms tried before takes the text for another value.
-/
namespace Polystore

open Calendar

namespace Calendar

variable {α : Type}

theorem firstOf_cons (pattern : Pattern) (others : List Pattern) (make : Parts → Option α) (text : List Char) :
    firstOf (pattern :: others) make text = ((pattern.read text).bind make).or (firstOf others make text) := by
  rw [firstOf, List.findSome?_cons]
  cases (pattern.read text).bind make <;> rfl

/-- The first form gives the value if it matches and its parts make a value. -/
theorem firstOf_of_read {pattern : Pattern} {text : List Char} {parts : Parts} {make : Parts → Option α} {value : α}
    (read : pattern.read text = some parts) (made : make parts = some value) (others : List Pattern) :
    firstOf (pattern :: others) make text = some value := by
  rw [firstOf_cons, read, Option.bind_some, made, Option.some_or]

end Calendar

theorem daysInMonth_le (year : Int) (month : Nat) : daysInMonth year month ≤ 31 := by
  unfold daysInMonth
  split
  · split <;> decide
  · split <;> decide

theorem Timestamp.fits_parts (timestamp : Timestamp) : timestamp.parts.Fits := by
  obtain ⟨⟨year, month, day, isDate⟩, ⟨hour, minute, second, nanosecond, isTime⟩⟩ := timestamp
  obtain ⟨years, months, days⟩ := isDate
  obtain ⟨hours, minutes, seconds, nanoseconds⟩ := isTime
  have most := daysInMonth_le year month
  constructor <;> simp only [Timestamp.parts, Time.parts] <;> omega

theorem Date.fits_parts (date : Date) : date.parts.Fits :=
  (Timestamp.mk date ⟨0, 0, 0, 0, by decide⟩).fits_parts

theorem Time.fits_parts (time : Time) : time.parts.Fits := by
  have fits := (Timestamp.mk ⟨0, 1, 1, by decide⟩ time).fits_parts
  exact { fits with }

theorem Date.date?_parts (date : Date) : date.parts.date? = some date := by
  simp [Parts.date?, Date.parts, Date.of?, date.valid]

theorem Time.time?_parts (time : Time) : time.parts.time? = some time := by
  simp [Parts.time?, Time.parts, Time.of?, time.valid]

theorem Timestamp.timestamp?_parts (timestamp : Timestamp) : timestamp.parts.timestamp? = some timestamp := by
  simp [Parts.timestamp?, Parts.date?, Parts.time?, Timestamp.parts, Time.parts, Date.of?, Time.of?,
    timestamp.date.valid, timestamp.time.valid]

/-- A date is read from its text, whatever the sign of its year. -/
theorem Date.read_text (date : Date) : Date.read date.text.toList = some date := by
  rw [Date.text, String.toList_ofList]
  exact firstOf_of_read (Pattern.readFrom_write date.fits_parts {} (by decide)) date.date?_parts _

theorem Date.isBlank_of_mem_text {date : Date} {c : Char} (member : c ∈ date.text.toList) : Text.isBlank c = false := by
  rw [Date.text, String.toList_ofList] at member
  exact Pattern.isBlank_of_mem_write date.fits_parts rfl member

theorem Time.read_storedText (time : Time) : Time.read time.storedText.toList = some time := by
  rw [Time.storedText, String.toList_ofList]
  exact firstOf_of_read (Pattern.readFrom_write time.fits_parts {} (by decide)) time.time?_parts _

theorem Time.isBlank_of_mem_storedText {time : Time} {c : Char} (member : c ∈ time.storedText.toList) :
    Text.isBlank c = false := by
  rw [Time.storedText, String.toList_ofList] at member
  exact Pattern.isBlank_of_mem_write time.fits_parts rfl member

theorem Timestamp.read_storedText (timestamp : Timestamp) :
    Timestamp.read timestamp.storedText.toList = some timestamp := by
  rw [Timestamp.storedText, String.toList_ofList]
  exact firstOf_of_read (Pattern.readFrom_write timestamp.fits_parts {} (by decide)) timestamp.timestamp?_parts _

theorem Timestamp.isBlank_of_mem_storedText {timestamp : Timestamp} {c : Char}
    (member : c ∈ timestamp.storedText.toList) : Text.isBlank c = false := by
  rw [Timestamp.storedText, String.toList_ofList] at member
  exact Pattern.isBlank_of_mem_write timestamp.fits_parts rfl member

namespace Rfc3339

variable {parts : Parts} {rest : List Char}

/-- What a pattern that begins as the internet profile does reads behind the second. -/
theorem read_localPattern_append (fits : parts.Fits) (stops : StopsDigits rest) (more : Pattern) :
    Pattern.read (localPattern ++ more) (localPattern.write parts ++ rest) =
      Pattern.readFrom (localPattern.copy parts {}) more rest :=
  Pattern.readFrom_write_append fits {} localPattern more (by decide) stops

/-- A pattern with a blank behind the date does not match the internet profile, which has a letter there. -/
theorem read_spaced (fits : parts.Fits) (time : Pattern) :
    Pattern.read (timestampPattern ' ' time) (localPattern.write parts ++ rest) = none := by
  have text : localPattern.write parts ++ rest =
      datePattern.write parts ++ ('T' :: (Pattern.write secondPattern parts ++ rest)) := by
    have whole : localPattern = datePattern ++ (.literal 'T' :: secondPattern) := rfl
    rw [whole, Pattern.write_append, List.append_assoc]
    rfl
  have date := Pattern.readFrom_write_append fits {} datePattern (.literal ' ' :: time) (by decide)
    (stopsDigits_cons (c := 'T') rfl (Pattern.write secondPattern parts ++ rest))
  rw [text]
  exact date.trans (Pattern.readFrom_literal_of_ne (by decide) _ _ _)

end Rfc3339

/-- The parts of a timestamp with an offset in whole minutes. -/
def OffsetTimestamp.parts (timestamp : OffsetTimestamp) : Parts :=
  { timestamp.localTime.parts with
    offsetNegative := timestamp.offset < 0
    offsetHour := timestamp.offset.natAbs / 60 / 60
    offsetMinute := timestamp.offset.natAbs / 60 % 60 }

/-- What the internet profile has texts for. -/
structure OffsetTimestamp.IsWritable (timestamp : OffsetTimestamp) : Prop where
  year : 0 ≤ timestamp.localTime.date.year
  minutes : timestamp.offset % 60 = 0
  day : timestamp.offset.natAbs < 86400

theorem OffsetTimestamp.isWritable_iff (timestamp : OffsetTimestamp) :
    Rfc3339.isWritable timestamp = true ↔ timestamp.IsWritable := by
  simp only [Rfc3339.isWritable, Bool.and_eq_true, decide_eq_true_eq]
  exact ⟨fun ⟨⟨year, minutes⟩, day⟩ => ⟨year, minutes, day⟩, fun ⟨year, minutes, day⟩ => ⟨⟨year, minutes⟩, day⟩⟩

namespace OffsetTimestamp

variable {timestamp : OffsetTimestamp}

theorem IsWritable.fits_parts (writable : timestamp.IsWritable) : timestamp.parts.Fits := by
  have fits := timestamp.localTime.fits_parts
  have day := writable.day
  exact { fits with
    offsetHour := by simp only [parts]; omega
    offsetMinute := by simp only [parts]; omega }

theorem IsWritable.offset?_parts (writable : timestamp.IsWritable) :
    timestamp.parts.offset? = some timestamp.offset := by
  have minutes := writable.minutes
  have day := writable.day
  have room : timestamp.offset.natAbs / 60 / 60 ≤ 25 ∧ timestamp.offset.natAbs / 60 % 60 ≤ 59 := by omega
  have magnitude : ((timestamp.offset.natAbs / 60 / 60 : Nat) : Int) * 3600 +
      ((timestamp.offset.natAbs / 60 % 60 : Nat) : Int) * 60 = timestamp.offset.natAbs := by omega
  simp only [Parts.offset?, parts, room, decide_true, Bool.and_self, if_true, magnitude, decide_eq_true_eq]
  split <;> congr 1 <;> omega

theorem IsWritable.offsetTimestamp?_parts (writable : timestamp.IsWritable) :
    timestamp.parts.offsetTimestamp? = some timestamp := by
  have localTime : timestamp.parts.timestamp? = some timestamp.localTime := timestamp.localTime.timestamp?_parts
  simp [Parts.offsetTimestamp?, writable.offset?_parts, localTime, OffsetTimestamp.of?, timestamp.valid]

/-- What the forms of timestamps with an offset give for a text that begins with date and time as the internet profile
has them: only the first two get behind the time, and they go on with a fraction and with an offset. -/
theorem firstOf_offsetTimestampForms {parts : Parts} (fits : parts.Fits) {rest : List Char}
    (stops : StopsDigits rest) :
    firstOf offsetTimestampForms Parts.offsetTimestamp? (Rfc3339.localPattern.write parts ++ rest) =
      ((Pattern.readFrom (Rfc3339.localPattern.copy parts {}) (.literal '.' :: .subsecond :: offsetPattern) rest).bind
          Parts.offsetTimestamp?).or
        ((Pattern.readFrom (Rfc3339.localPattern.copy parts {}) offsetPattern rest).bind Parts.offsetTimestamp?) := by
  have forms : offsetTimestampForms =
      [Rfc3339.localPattern ++ (.literal '.' :: .subsecond :: offsetPattern), Rfc3339.localPattern ++ offsetPattern,
        timestampPattern ' ' (timePattern ++ offsetPattern), timestampPattern ' ' (secondPattern ++ offsetPattern)] :=
    rfl
  have nothing : firstOf [] Parts.offsetTimestamp? (Rfc3339.localPattern.write parts ++ rest) = none := rfl
  simp only [forms, firstOf_cons, Rfc3339.read_localPattern_append fits stops, Rfc3339.read_spaced fits, nothing,
    Option.bind_none, Option.or_none]

/-- The text of an offset is what the pattern of offsets writes, if there is an offset. -/
theorem offsetText_eq_write (offset : timestamp.offset ≠ 0) :
    Rfc3339.offsetText timestamp.offset = offsetPattern.write timestamp.parts := by
  simp [Rfc3339.offsetText, offset, offsetPattern, Pattern.write, Piece.write, parts]

/-- A text with an offset is taken by one of the first two forms. -/
theorem IsWritable.firstOf_of_offset (writable : timestamp.IsWritable) (offset : timestamp.offset ≠ 0) :
    firstOf offsetTimestampForms Parts.offsetTimestamp? (Rfc3339.localPattern.write timestamp.parts ++
      (Rfc3339.fraction timestamp.parts.nanosecond ++ Rfc3339.offsetText timestamp.offset)) = some timestamp := by
  have fits := writable.fits_parts
  rw [offsetText_eq_write offset]
  by_cases whole : timestamp.parts.nanosecond = 0
  · have stops : StopsDigits (offsetPattern.write timestamp.parts) :=
      Piece.stopsDigits_write .offsetHour rfl timestamp.parts _
    have unfractioned (before : Parts) (more : Pattern) :
        Pattern.readFrom before (.literal '.' :: more) (offsetPattern.write timestamp.parts) = none := by
      refine Pattern.readFrom_literal_of_ne ?_ before more _
      split <;> decide
    have copied : offsetPattern.copy timestamp.parts (Rfc3339.localPattern.copy timestamp.parts {}) =
        timestamp.parts := by
      calc
        _ = { timestamp.parts with nanosecond := 0 } := rfl
        _ = timestamp.parts := by rw [← whole]
    rw [Rfc3339.fraction, if_pos whole, List.nil_append, firstOf_offsetTimestampForms fits stops, unfractioned,
      Pattern.readFrom_write fits _ (by decide), copied, Option.bind_none, Option.none_or, Option.bind_some,
      writable.offsetTimestamp?_parts]
  · have text : Rfc3339.fraction timestamp.parts.nanosecond ++ offsetPattern.write timestamp.parts =
        Pattern.write (.literal '.' :: .subsecond :: offsetPattern) timestamp.parts := by
      simp [Rfc3339.fraction, whole, Pattern.write, Piece.write]
    have copied : Pattern.copy timestamp.parts (Rfc3339.localPattern.copy timestamp.parts {})
        (.literal '.' :: .subsecond :: offsetPattern) = timestamp.parts := rfl
    have stops : StopsDigits (Pattern.write (.literal '.' :: .subsecond :: offsetPattern) timestamp.parts) :=
      stopsDigits_cons rfl _
    rw [text, firstOf_offsetTimestampForms fits stops, Pattern.readFrom_write fits _ (by decide), copied,
      Option.bind_some, writable.offsetTimestamp?_parts, Option.some_or]

/-- No form takes a text in universal time, whose offset is a letter. -/
theorem IsWritable.firstOf_of_universal (writable : timestamp.IsWritable) :
    firstOf offsetTimestampForms Parts.offsetTimestamp? (Rfc3339.localPattern.write timestamp.parts ++
      (Rfc3339.fraction timestamp.parts.nanosecond ++ ['Z'])) = none := by
  have fits := writable.fits_parts
  by_cases whole : timestamp.parts.nanosecond = 0
  · rw [Rfc3339.fraction, if_pos whole, List.nil_append, firstOf_offsetTimestampForms fits (stopsDigits_cons rfl [])]
    rfl
  · have text : Rfc3339.fraction timestamp.parts.nanosecond ++ ['Z'] =
        Pattern.write [.literal '.', .subsecond] timestamp.parts ++ ['Z'] := by
      simp [Rfc3339.fraction, whole, Pattern.write, Piece.write]
    have stops : StopsDigits (Pattern.write [.literal '.', .subsecond] timestamp.parts ++ ['Z']) :=
      stopsDigits_cons (c := '.') rfl _
    have behind (before : Parts) :
        Pattern.readFrom before (.literal '.' :: .subsecond :: offsetPattern)
          (Pattern.write [.literal '.', .subsecond] timestamp.parts ++ ['Z']) = none :=
      Pattern.readFrom_write_append fits before [.literal '.', .subsecond] offsetPattern (by decide)
        (stopsDigits_cons (c := 'Z') rfl [])
    rw [text, firstOf_offsetTimestampForms fits stops, behind]
    rfl

/-- The internet profile reads a text in universal time. -/
theorem IsWritable.read_of_universal (writable : timestamp.IsWritable) (universal : timestamp.offset = 0) :
    Rfc3339.read (Rfc3339.localPattern.write timestamp.parts ++
      (Rfc3339.fraction timestamp.parts.nanosecond ++ ['Z'])) = some timestamp := by
  have fits := writable.fits_parts
  have year : ¬timestamp.parts.year < 0 := Int.not_lt.mpr writable.year
  have text (rest : List Char) : Rfc3339.localPattern.write timestamp.parts ++ rest =
      padded 4 timestamp.parts.year.natAbs ++ '-' :: (padded 2 timestamp.parts.month ++ '-' ::
        (padded 2 timestamp.parts.day ++ 'T' :: (padded 2 timestamp.parts.hour ++ ':' ::
          (padded 2 timestamp.parts.minute ++ ':' :: (padded 2 timestamp.parts.second ++ rest))))) := by
    simp [Rfc3339.localPattern, Pattern.write, Piece.write, yearText, year]
  have four (rest : List Char) : takeDigits 4 (padded 4 timestamp.parts.year.natAbs ++ rest) =
      some (timestamp.parts.year.natAbs, rest) := takeDigits_padded (by decide) fits.year rest
  have two {n : Nat} (room : n < 100) (rest : List Char) : takeDigits 2 (padded 2 n ++ rest) = some (n, rest) :=
    takeDigits_padded (by decide) room rest
  have fraction : Rfc3339.takeFraction (Rfc3339.fraction timestamp.parts.nanosecond ++ ['Z']) =
      some (timestamp.parts.nanosecond, ['Z']) := by
    by_cases whole : timestamp.parts.nanosecond = 0
    · rw [Rfc3339.fraction, if_pos whole, whole]
      rfl
    · rw [Rfc3339.fraction, if_neg whole]
      exact takeSubsecond_subsecondDigits fits.nanosecond (stopsDigits_cons rfl [])
  have char (c : Char) (rest : List Char) : Rfc3339.takeChar c (c :: rest) = some rest := if_pos rfl
  have separator (rest : List Char) : Rfc3339.takeSeparator ('T' :: rest) = some rest := rfl
  have offset : Rfc3339.takeOffset ['Z'] = some (0, []) := rfl
  have date : Date.of? (timestamp.parts.year.natAbs : Int) timestamp.parts.month timestamp.parts.day =
      some timestamp.localTime.date := by
    have same : (timestamp.parts.year.natAbs : Int) = timestamp.localTime.date.year :=
      Int.natAbs_of_nonneg writable.year
    rw [same]
    exact timestamp.localTime.date.date?_parts
  have time : Time.of? timestamp.parts.hour timestamp.parts.minute timestamp.parts.second timestamp.parts.nanosecond =
      some timestamp.localTime.time := timestamp.localTime.time.time?_parts
  have second : timestamp.parts.second ≠ 60 := Nat.ne_of_lt timestamp.localTime.time.valid.2.2.1
  have zoned : OffsetTimestamp.of? timestamp.localTime 0 = some timestamp := by
    rw [← universal]
    exact dif_pos timestamp.valid
  -- The reader is taken along the text field by field.
  rw [text, Rfc3339.read]
  refine Option.bind_eq_some_iff.mpr ⟨_, four _, ?_⟩
  refine Option.bind_eq_some_iff.mpr ⟨_, char '-' _, ?_⟩
  refine Option.bind_eq_some_iff.mpr ⟨_, two fits.month _, ?_⟩
  refine Option.bind_eq_some_iff.mpr ⟨_, char '-' _, ?_⟩
  refine Option.bind_eq_some_iff.mpr ⟨_, two fits.day _, ?_⟩
  refine Option.bind_eq_some_iff.mpr ⟨_, separator _, ?_⟩
  refine Option.bind_eq_some_iff.mpr ⟨_, two fits.hour _, ?_⟩
  refine Option.bind_eq_some_iff.mpr ⟨_, char ':' _, ?_⟩
  refine Option.bind_eq_some_iff.mpr ⟨_, two fits.minute _, ?_⟩
  refine Option.bind_eq_some_iff.mpr ⟨_, char ':' _, ?_⟩
  refine Option.bind_eq_some_iff.mpr ⟨_, two fits.second _, ?_⟩
  refine Option.bind_eq_some_iff.mpr ⟨_, fraction, ?_⟩
  refine Option.bind_eq_some_iff.mpr ⟨_, offset, ?_⟩
  refine Option.bind_eq_some_iff.mpr ⟨_, date, ?_⟩
  refine (if_neg Bool.false_ne_true).trans ((if_neg second).trans ?_)
  exact Option.bind_eq_some_iff.mpr ⟨_, time, zoned⟩

/-- A timestamp with an offset is read from its text in the internet profile, if it has one. -/
theorem read_write? {text : String} (written : Rfc3339.write? timestamp = some text) :
    OffsetTimestamp.read text.toList = some timestamp := by
  unfold Rfc3339.write? at written
  split at written
  · rename_i writable
    have writable := (isWritable_iff timestamp).mp writable
    have whole : text.toList = Rfc3339.localPattern.write timestamp.parts ++
        (Rfc3339.fraction timestamp.parts.nanosecond ++ Rfc3339.offsetText timestamp.offset) := by
      rw [← Option.some.inj written, String.toList_ofList, List.append_assoc]
      rfl
    rw [OffsetTimestamp.read, whole]
    by_cases offset : timestamp.offset = 0
    · rw [Rfc3339.offsetText, if_pos offset, writable.firstOf_of_universal, Option.none_or,
        writable.read_of_universal offset]
    · rw [writable.firstOf_of_offset offset, Option.some_or]
  · cases written

theorem isBlank_of_mem_written {text : String} (written : Rfc3339.write? timestamp = some text) {c : Char}
    (member : c ∈ text.toList) : Text.isBlank c = false := by
  unfold Rfc3339.write? at written
  split at written
  · rename_i writable
    have fits := ((isWritable_iff timestamp).mp writable).fits_parts
    rw [← Option.some.inj written, String.toList_ofList] at member
    rcases List.mem_append.mp member with front | zone
    · rcases List.mem_append.mp front with atSecond | fraction
      · exact Pattern.isBlank_of_mem_write timestamp.localTime.fits_parts rfl atSecond
      · unfold Rfc3339.fraction at fraction
        split at fraction
        · cases fraction
        · rcases List.mem_cons.mp fraction with rfl | digit
          · rfl
          · exact Text.isBlank_of_isDigit (isDigit_of_mem_subsecondDigits fits.nanosecond digit)
    · by_cases offset : timestamp.offset = 0
      · rw [Rfc3339.offsetText, if_pos offset] at zone
        rw [List.mem_singleton.mp zone]
        rfl
      · rw [offsetText_eq_write offset] at zone
        exact Pattern.isBlank_of_mem_write fits rfl zone
  · cases written

end OffsetTimestamp

end Polystore
