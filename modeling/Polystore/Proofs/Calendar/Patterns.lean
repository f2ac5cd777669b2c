import Mathlib.Data.List.Chain
import Polystore.Proofs.Calendar.Digits
import Polystore.Text.Blank

/-!
Patterns read what they write. A pattern whose fields have room for the parts, and in which no digit comes behind the
digits of the nanoseconds, takes from a text that it has written exactly the parts it names, and goes on with the text
behind it; so a longer pattern fails where the text behind does not fit.
-/
namespace Polystore.Calendar

/-- Parts that the fields of patterns have room for. -/
structure Parts.Fits (parts : Parts) : Prop where
  year : parts.year.natAbs < 10000
  month : parts.month < 100
  day : parts.day < 100
  hour : parts.hour < 100
  minute : parts.minute < 100
  second : parts.second < 100
  nanosecond : parts.nanosecond < 1000000000
  offsetHour : parts.offsetHour < 100
  offsetMinute : parts.offsetMinute < 100

/-- Takes the part that an element names from other parts. -/
def Piece.copy (source target : Parts) : Piece → Parts
  | .year => { target with year := source.year }
  | .month => { target with month := source.month }
  | .day => { target with day := source.day }
  | .hour => { target with hour := source.hour }
  | .minute => { target with minute := source.minute }
  | .second => { target with second := source.second }
  | .subsecond => { target with nanosecond := source.nanosecond }
  | .offsetHour => { target with offsetNegative := source.offsetNegative, offsetHour := source.offsetHour }
  | .offsetMinute => { target with offsetMinute := source.offsetMinute }
  | .literal _ => target

/-- Takes all parts that a pattern names from other parts. -/
def Pattern.copy (source target : Parts) (pattern : Pattern) : Parts :=
  pattern.foldl (fun target piece => piece.copy source target) target

/-- Whether an element is written with a character in front that is no digit. -/
def Piece.stopsDigits : Piece → Bool
  | .offsetHour => true
  | .literal c => !c.isDigit
  | _ => false

/-- Whether an element can stand before another: the digits of nanoseconds need to be stopped. -/
def Piece.MayPrecede (piece next : Piece) : Prop := piece = .subsecond → next.stopsDigits = true

instance (piece next : Piece) : Decidable (piece.MayPrecede next) :=
  inferInstanceAs (Decidable (_ → _))

/-- Patterns in which no digit comes behind the digits of nanoseconds. -/
def Pattern.Separated (pattern : Pattern) : Prop := List.IsChain Piece.MayPrecede pattern

instance (pattern : Pattern) : Decidable pattern.Separated :=
  inferInstanceAs (Decidable (List.IsChain _ _))

theorem takeSign_of_isDigit {c : Char} (digit : c.isDigit = true) (rest : List Char) : takeSign (c :: rest) = none := by
  unfold takeSign
  split
  · rename_i same
    cases same
    cases digit
  · rename_i same
    cases same
    cases digit
  · rfl

theorem takeSign_padded {count n : Nat} (rest : List Char) : takeSign (padded count n ++ rest) = none := by
  cases digits : padded count n with
  | nil => exact absurd (List.append_eq_nil_iff.mp digits).2 Nat.toDigits_ne_nil
  | cons c more => exact takeSign_of_isDigit (isDigit_of_mem_padded (digits ▸ List.mem_cons_self ..)) (more ++ rest)

/-- A year is read with its sign. -/
theorem read_yearText {year : Int} (room : year.natAbs < 10000) (before : Parts) (rest : List Char) :
    Piece.read before (yearText year ++ rest) .year = some ({ before with year := year }, rest) := by
  have digits : takeDigits 4 (padded 4 year.natAbs ++ rest) = some (year.natAbs, rest) :=
    takeDigits_padded (by decide) room rest
  by_cases negative : year < 0
  · have same : -(year.natAbs : Int) = year := by omega
    simp only [Piece.read, yearText, negative, if_true, List.nil_append, List.cons_append, takeSign,
      Option.getD_some, digits, Option.map_some, same]
  · have same : (year.natAbs : Int) = year := by omega
    simp only [Piece.read, yearText, negative, if_false, List.nil_append, takeSign_padded, Option.getD_none, digits,
      Option.map_some, Bool.false_eq_true, same]

/-- An element reads what it has written. -/
theorem Piece.read_write {parts : Parts} (fits : parts.Fits) (before : Parts) (piece : Piece) {rest : List Char}
    (stops : piece = .subsecond → StopsDigits rest) :
    piece.read before (piece.write parts ++ rest) = some (piece.copy parts before, rest) := by
  have two {n : Nat} (room : n < 100) : takeDigits 2 (padded 2 n ++ rest) = some (n, rest) :=
    takeDigits_padded (by decide) room rest
  cases piece with
  | year => exact read_yearText fits.year before rest
  | month => simp [read, write, copy, two fits.month]
  | day => simp [read, write, copy, two fits.day]
  | hour => simp [read, write, copy, two fits.hour]
  | minute => simp [read, write, copy, two fits.minute]
  | second => simp [read, write, copy, two fits.second]
  | subsecond => simp [read, write, copy, takeSubsecond_subsecondDigits fits.nanosecond (stops rfl)]
  | offsetHour => cases sign : parts.offsetNegative <;> simp [read, write, copy, takeSign, two fits.offsetHour, sign]
  | offsetMinute => simp [read, write, copy, two fits.offsetMinute]
  | literal c => simp [read, write, copy]

theorem Piece.stopsDigits_write (piece : Piece) (stops : piece.stopsDigits = true) (parts : Parts) (rest : List Char) :
    StopsDigits (piece.write parts ++ rest) := by
  cases piece with
  | offsetHour => cases sign : parts.offsetNegative <;> simp [write, StopsDigits, sign]
  | literal c => exact stopsDigits_cons (by simpa [Piece.stopsDigits] using stops) rest
  | _ => cases stops

theorem Pattern.write_append (first second : Pattern) (parts : Parts) :
    Pattern.write (first ++ second) parts = first.write parts ++ second.write parts :=
  List.flatMap_append

/-- A literal is not read from another character. -/
theorem Pattern.readFrom_literal_of_ne {first c : Char} (other : first ≠ c) (before : Parts) (pattern : Pattern)
    (rest : List Char) : Pattern.readFrom before (.literal c :: pattern) (first :: rest) = none := by
  simp [Pattern.readFrom, Piece.read, other]

/-- A pattern that begins with another reads what the other has written, and goes on behind it. -/
theorem Pattern.readFrom_write_append {parts : Parts} (fits : parts.Fits) (before : Parts) (pattern more : Pattern)
    (separated : pattern.Separated) {rest : List Char} (stops : StopsDigits rest) :
    Pattern.readFrom before (pattern ++ more) (pattern.write parts ++ rest) =
      Pattern.readFrom (pattern.copy parts before) more rest := by
  induction pattern generalizing before with
  | nil => rfl
  | cons piece others ih =>
    have behind : piece = .subsecond → StopsDigits (Pattern.write others parts ++ rest) := by
      intro subsecond
      cases others with
      | nil => exact stops
      | cons next later =>
        have apart : next.stopsDigits = true := (List.isChain_cons_cons.mp separated).1 subsecond
        have starts := Piece.stopsDigits_write next apart parts (Pattern.write later parts ++ rest)
        simpa [Pattern.write, List.append_assoc] using starts
    have first := Piece.read_write fits before piece behind
    have text : Pattern.write (piece :: others) parts ++ rest =
        piece.write parts ++ (Pattern.write others parts ++ rest) := by
      simp [Pattern.write]
    rw [text, List.cons_append, Pattern.readFrom, first]
    exact ih (piece.copy parts before) separated.tail

/-- A pattern reads what it has written. -/
theorem Pattern.readFrom_write {parts : Parts} (fits : parts.Fits) (before : Parts) {pattern : Pattern}
    (separated : pattern.Separated) :
    Pattern.readFrom before pattern (pattern.write parts) = some (pattern.copy parts before) := by
  have whole := Pattern.readFrom_write_append fits before pattern [] separated stopsDigits_nil
  rwa [List.append_nil, List.append_nil] at whole

/-- What an element writes has no blanks, unless it is a blank itself. -/
theorem Piece.isBlank_of_mem_write {parts : Parts} (fits : parts.Fits) {piece : Piece}
    (visible : ∀ c, piece = .literal c → Text.isBlank c = false) {c : Char} (member : c ∈ piece.write parts) :
    Text.isBlank c = false := by
  have digits {count n : Nat} (member : c ∈ padded count n) : Text.isBlank c = false :=
    Text.isBlank_of_isDigit (isDigit_of_mem_padded member)
  cases piece with
  | year =>
    rcases List.mem_append.mp member with sign | number
    · split at sign
      · rw [List.mem_singleton.mp sign]
        rfl
      · cases sign
    · exact digits number
  | subsecond => exact Text.isBlank_of_isDigit (isDigit_of_mem_subsecondDigits fits.nanosecond member)
  | offsetHour =>
    rcases List.mem_cons.mp member with rfl | number
    · split <;> rfl
    · exact digits number
  | literal other =>
    rw [List.mem_singleton.mp member]
    exact visible other rfl
  | _ => exact digits member

/-- The characters that a pattern writes between the parts. -/
def Pattern.literals (pattern : Pattern) : List Char :=
  pattern.filterMap fun
    | .literal c => some c
    | _ => none

theorem Pattern.isBlank_of_mem_write {parts : Parts} (fits : parts.Fits) {pattern : Pattern}
    (visible : pattern.literals.all (fun c => !Text.isBlank c) = true) {c : Char} (member : c ∈ pattern.write parts) :
    Text.isBlank c = false := by
  obtain ⟨piece, present, written⟩ := List.mem_flatMap.mp member
  refine Piece.isBlank_of_mem_write fits (fun other literal => ?_) written
  have named : other ∈ pattern.literals := List.mem_filterMap.mpr ⟨piece, present, by rw [literal]⟩
  simpa using List.all_eq_true.mp visible other named

end Polystore.Calendar
