import Polystore.Proofs.Calendar.Texts

/-!
The texts of times and timestamps that are shown, read back. A time of one digit in the hour is shown without the zero
that the forms of times need, so that none of them takes it; from ten o'clock on the shown text is the stored one. A
timestamp is shown in universal time, and only the forms that end in the letter for it take its text.
-/
namespace Polystore

open Calendar

namespace Time

variable {time : Time}

theorem text_eq_storedText (late : 10 ≤ time.hour) : time.text = time.storedText := by
  have two : 1 < (Nat.toDigits 10 time.hour).length :=
    Nat.lt_of_not_le fun short => Nat.not_lt.mpr late
      ((Nat.length_toDigits_le_iff (by decide) (by decide)).mp short)
  have hour : padded 2 time.hour = Nat.toDigits 10 time.hour := by
    rw [padded, Nat.sub_eq_zero_of_le two, List.replicate_zero, List.nil_append]
  rw [text, storedText, ← hour]
  rfl

/-- From ten o'clock on a time is read from the text that it is shown as. -/
theorem read_text_of_late (late : 10 ≤ time.hour) : Time.read time.text.toList = some time := by
  rw [text_eq_storedText late, read_storedText]

/-- No form of times takes an hour of one digit. -/
theorem read_text_of_early (early : time.hour < 10) : Time.read time.text.toList = none := by
  have short (rest : List Char) : takeDigits 2 (Nat.toDigits 10 time.hour ++ ':' :: rest) = none := by
    rw [Nat.toDigits_of_lt_base early]
    simp [takeDigits]
  have unread (more : Pattern) (rest : List Char) :
      Pattern.read (.hour :: more) (Nat.toDigits 10 time.hour ++ ':' :: rest) = none := by
    rw [Pattern.read, Pattern.readFrom, Piece.read, short]
    rfl
  have shown : ∃ rest, time.text.toList = Nat.toDigits 10 time.hour ++ ':' :: rest := by
    rw [text, String.toList_ofList]
    exact ⟨_, rfl⟩
  obtain ⟨rest, shown⟩ := shown
  rw [Time.read, shown, firstOf, List.findSome?_eq_none_iff]
  intro pattern form
  have hours : ∃ more, pattern = .hour :: more := by
    simp only [timeForms, timePattern, secondPattern, minutePattern, List.mem_cons, List.not_mem_nil, or_false] at form
    rcases form with rfl | rfl | rfl <;> exact ⟨_, rfl⟩
  obtain ⟨more, rfl⟩ := hours
  rw [unread, Option.bind_none]

theorem isBlank_of_mem_text {c : Char} (member : c ∈ time.text.toList) : Text.isBlank c = false := by
  rw [text, String.toList_ofList] at member
  rcases List.mem_append.mp member with hour | behind
  · exact Text.isBlank_of_isDigit (Nat.isDigit_of_mem_toDigits (by decide) (by decide) hour)
  · exact Pattern.isBlank_of_mem_write time.fits_parts rfl behind

end Time

namespace Timestamp

/-- What may stand behind date and time, as the forms of timestamps with a letter between these have it. -/
def endings : List Pattern :=
  [[.literal '.', .subsecond], [], [.literal '.', .subsecond, .literal 'Z'], [.literal 'Z']]

/-- What the forms of timestamps give for a text that begins with date and time as the internet profile has them. -/
theorem firstOf_timestampForms {parts : Parts} (fits : parts.Fits) {rest : List Char} (stops : StopsDigits rest) :
    firstOf timestampForms Parts.timestamp? (Rfc3339.localPattern.write parts ++ rest) =
      endings.findSome? fun more =>
        (Pattern.readFrom (Rfc3339.localPattern.copy parts {}) more rest).bind Parts.timestamp? := by
  have forms : timestampForms =
      [Rfc3339.localPattern ++ [.literal '.', .subsecond], Rfc3339.localPattern ++ [],
        timestampPattern ' ' timePattern, timestampPattern ' ' secondPattern,
        Rfc3339.localPattern ++ [.literal '.', .subsecond, .literal 'Z'], Rfc3339.localPattern ++ [.literal 'Z']] :=
    rfl
  simp only [forms, firstOf, endings, List.findSome?_cons, List.findSome?_nil,
    Rfc3339.read_localPattern_append fits stops, Rfc3339.read_spaced fits, Option.bind_none]

theorem readFrom_nil_letter (before : Parts) : Pattern.readFrom before [] ['Z'] = none := rfl

theorem readFrom_letter (before : Parts) : Pattern.readFrom before [.literal 'Z'] ['Z'] = some before := rfl

variable (timestamp : Timestamp)

/-- Without nanoseconds it is the last form that takes a text in universal time. -/
theorem read_of_whole (whole : timestamp.parts.nanosecond = 0) :
    Timestamp.read (Rfc3339.localPattern.write timestamp.parts ++ ['Z']) = some timestamp := by
  have others (before : Parts) (more : Pattern) : Pattern.readFrom before (.literal '.' :: more) ['Z'] = none :=
    Pattern.readFrom_literal_of_ne (by decide) before more []
  have copied : Rfc3339.localPattern.copy timestamp.parts {} = timestamp.parts := by
    calc
      _ = { timestamp.parts with nanosecond := 0 } := rfl
      _ = timestamp.parts := by rw [← whole]
  rw [Timestamp.read, firstOf_timestampForms timestamp.fits_parts (stopsDigits_cons rfl [])]
  simp only [endings, List.findSome?_cons, others, readFrom_nil_letter, readFrom_letter, copied, Option.bind_none,
    Option.bind_some, timestamp.timestamp?_parts]

/-- With nanoseconds it is the last but one. -/
theorem read_of_fraction : Timestamp.read (Rfc3339.localPattern.write timestamp.parts ++
    ('.' :: (subsecondDigits timestamp.parts.nanosecond ++ ['Z']))) = some timestamp := by
  have fits := timestamp.fits_parts
  have behind (before : Parts) (more : Pattern) :
      Pattern.readFrom before (.literal '.' :: .subsecond :: more)
        ('.' :: (subsecondDigits timestamp.parts.nanosecond ++ ['Z'])) =
        Pattern.readFrom { before with nanosecond := timestamp.parts.nanosecond } more ['Z'] := by
    have text : '.' :: (subsecondDigits timestamp.parts.nanosecond ++ ['Z']) =
        Pattern.write [.literal '.', .subsecond] timestamp.parts ++ ['Z'] := by
      simp [Pattern.write, Piece.write]
    rw [text]
    exact Pattern.readFrom_write_append fits before [.literal '.', .subsecond] more (by decide)
      (stopsDigits_cons rfl [])
  have copied : { Rfc3339.localPattern.copy timestamp.parts {} with nanosecond := timestamp.parts.nanosecond } =
      timestamp.parts := rfl
  rw [Timestamp.read, firstOf_timestampForms fits (stopsDigits_cons rfl _)]
  have point (before : Parts) (rest : List Char) : Pattern.readFrom before [] ('.' :: rest) = none := rfl
  simp only [endings, List.findSome?_cons, behind, point, readFrom_nil_letter, readFrom_letter, copied,
    Option.bind_none, Option.bind_some, timestamp.timestamp?_parts]

/-- A timestamp is read from its text in universal time, if it has one. -/
theorem read_universal {text : String} (written : Rfc3339.write? timestamp.universal = some text) :
    Timestamp.read text.toList = some timestamp := by
  unfold Rfc3339.write? at written
  split at written
  · have shown : text.toList = Rfc3339.localPattern.write timestamp.parts ++
        (Rfc3339.fraction timestamp.parts.nanosecond ++ ['Z']) := by
      rw [← Option.some.inj written, String.toList_ofList, List.append_assoc]
      rfl
    rw [shown, Rfc3339.fraction]
    split
    · exact timestamp.read_of_whole ‹_›
    · exact timestamp.read_of_fraction
  · cases written

end Timestamp

end Polystore
