import Mathlib.Data.List.Infix
import Polystore.DataType
import Polystore.Proofs.Calendar.Digits

/-!
Integer texts by their grammar. The reader takes a sign and digits and compares how much it has taken with the whole;
so it accepts digits with at most one sign of the kind in front, as the number that they write, and besides these only
a sign alone, which it takes whole as well and reads as zero. Every word is read from its own text, the least included.
-/
namespace Polystore

namespace IntegerText

/-- A number without a sign, or with a minus. -/
def signed (negative : Bool) (number : Nat) : Int := if negative then -(number : Int) else number

/-- What may stand in front of the digits of a kind, and whether it is a minus. -/
inductive Sign (kind : IntKind) : List Char → Bool → Prop where
  | none : Sign kind [] false
  | plus (hasSigns : kind.isSigned = true) : Sign kind ['+'] false
  | minus (hasSigns : kind.isSigned = true) : Sign kind ['-'] true

/-- The texts of an integer: at least one digit, and in front at most one sign, if the kind has signs. -/
inductive Writes (kind : IntKind) : List Char → Int → Prop where
  | intro {sign digits : List Char} {negative : Bool} (mark : Sign kind sign negative) (some : digits ≠ [])
      (each : ∀ c ∈ digits, c.isDigit = true) :
      Writes kind (sign ++ digits) (signed negative (Nat.ofDigitChars 10 digits 0))

/-- A sign without a digit. -/
def LoneSign (kind : IntKind) (text : List Char) : Prop := text ≠ [] ∧ ∃ negative, Sign kind text negative

/-- The digits of a text do not overflow a kind: what is written at its front is a number of the kind. -/
def HasRoom (kind : IntKind) (text : List Char) : Prop :=
  ∀ front number, Writes kind front number → front <+: text → kind.Fits number

/-- Whether a text begins with no sign of the kind. -/
def IsBare (kind : IntKind) (text : List Char) : Prop :=
  ∀ c ∈ text.head?, (kind.isSigned && (c = '-' || c = '+')) = false

theorem isBare_of_isDigit {kind : IntKind} {text : List Char} (digit : ∀ c ∈ text.head?, c.isDigit = true) :
    IsBare kind text := by
  intro c first
  have isDigit := digit c first
  have noSign : (c = '-' || c = '+') = false := by
    simp only [Bool.or_eq_false_iff, decide_eq_false_iff_not]
    constructor <;> rintro rfl <;> cases isDigit
  rw [noSign, Bool.and_false]

theorem addDigit_signed (negative : Bool) (number : Nat) {c : Char} (digit : c.isDigit = true) :
    addDigit negative (signed negative number) c = signed negative (10 * number + (c.toNat - '0'.toNat)) := by
  have least : '0'.toNat ≤ c.toNat := (Char.isDigit_iff_toNat.mp digit).1
  cases negative <;> simp only [addDigit, signed, Bool.false_eq_true, if_true, if_false] <;> omega

/-- Digits are taken up to the first other character. -/
theorem takeDigits_append {digits : List Char} (each : ∀ c ∈ digits, c.isDigit = true) {rest : List Char}
    (stops : Calendar.StopsDigits rest) (negative : Bool) (number : Nat) :
    takeDigits negative (signed negative number) (digits ++ rest) =
      (signed negative (Nat.ofDigitChars 10 digits number), digits.length) := by
  induction digits generalizing number with
  | nil =>
    cases rest with
    | nil => rfl
    | cons c rest => simp [takeDigits, stops c rfl]
  | cons c digits ih =>
    obtain ⟨first, others⟩ := List.forall_mem_cons.mp each
    rw [List.cons_append, takeDigits, if_pos first, addDigit_signed negative number first, ih others,
      Nat.ofDigitChars_cons, List.length_cons]

/-- A sign and digits are taken up to the first other character. -/
theorem takeNumber_append {kind : IntKind} {sign digits rest : List Char} {negative : Bool}
    (mark : Sign kind sign negative) (bare : sign = [] → IsBare kind (digits ++ rest))
    (each : ∀ c ∈ digits, c.isDigit = true) (stops : Calendar.StopsDigits rest) :
    takeNumber kind (sign ++ (digits ++ rest)) =
      (signed negative (Nat.ofDigitChars 10 digits 0), (sign ++ digits).length) := by
  have taken : takeDigits negative 0 (digits ++ rest) =
      (signed negative (Nat.ofDigitChars 10 digits 0), digits.length) := by
    have whole := takeDigits_append each stops negative 0
    cases negative <;> exact whole
  cases mark with
  | none =>
    rw [List.nil_append, List.nil_append, ← taken]
    cases text : digits ++ rest with
    | nil => rfl
    | cons c behind =>
      have noSign := bare rfl c (by rw [text]; rfl)
      rw [takeNumber, if_neg (by rw [noSign]; exact Bool.false_ne_true)]
  | plus hasSigns => simp [takeNumber, hasSigns, taken]
  | minus hasSigns => simp [takeNumber, hasSigns, taken]

/-- A text begins with a sign of the kind, or with none, then with digits, or none, and goes on otherwise. -/
theorem exists_front (kind : IntKind) (text : List Char) : ∃ sign negative digits rest, Sign kind sign negative ∧
    (sign = [] → IsBare kind (digits ++ rest)) ∧ (∀ c ∈ digits, c.isDigit = true) ∧ Calendar.StopsDigits rest ∧
    sign ++ (digits ++ rest) = text := by
  obtain ⟨sign, negative, behind, mark, bare, whole⟩ : ∃ sign negative behind, Sign kind sign negative ∧
      (sign = [] → IsBare kind behind) ∧ sign ++ behind = text := by
    by_cases bare : IsBare kind text
    · exact ⟨[], false, text, .none, fun _ => bare, rfl⟩
    · simp only [IsBare, Classical.not_forall, Bool.not_eq_false, Bool.and_eq_true, Bool.or_eq_true,
        decide_eq_true_eq] at bare
      obtain ⟨c, first, isSign⟩ := bare
      obtain ⟨behind, rfl⟩ := List.head?_eq_some_iff.mp first
      rcases isSign with ⟨hasSigns, rfl | rfl⟩
      · exact ⟨['-'], true, behind, .minus hasSigns, by simp, rfl⟩
      · exact ⟨['+'], false, behind, .plus hasSigns, by simp, rfl⟩
  have cut := List.takeWhile_append_dropWhile (p := Char.isDigit) (l := behind)
  refine ⟨sign, negative, behind.takeWhile Char.isDigit, behind.dropWhile Char.isDigit, mark, ?_,
    fun c => List.mem_takeWhile_imp, ?_, ?_⟩
  · rwa [cut]
  · intro c first
    have other := List.head?_dropWhile_not Char.isDigit behind
    rw [Option.mem_def.mp first] at other
    simpa using other
  · rw [cut, whole]

theorem read_eq (kind : IntKind) {sign digits rest : List Char} {negative : Bool} (mark : Sign kind sign negative)
    (bare : sign = [] → IsBare kind (digits ++ rest)) (each : ∀ c ∈ digits, c.isDigit = true)
    (stops : Calendar.StopsDigits rest) :
    read kind (sign ++ (digits ++ rest)) =
      if sign ++ digits = [] ∨ rest ≠ [] then none
      else Word.ofInt? kind (signed negative (Nat.ofDigitChars 10 digits 0)) := by
  have taken := takeNumber_append mark bare each stops
  have lengths : (sign ++ (digits ++ rest)).length = (sign ++ digits).length + rest.length := by
    rw [← List.append_assoc, List.length_append]
  rw [read, taken, lengths]
  simp only [Bool.or_eq_true, decide_eq_true_eq, List.length_eq_zero_iff, Nat.left_eq_add, ne_eq]

/-- What the grammar has is read as the number that it writes, if the kind has that. -/
theorem read_of_writes {kind : IntKind} {text : List Char} {number : Int} (writes : Writes kind text number) :
    read kind text = Word.ofInt? kind number := by
  cases writes with
  | @intro sign digits negative mark some each =>
    have bare : IsBare kind digits := isBare_of_isDigit fun c first => each c (List.mem_of_mem_head? first)
    have reads := read_eq kind mark (fun _ => by rwa [List.append_nil]) each Calendar.stopsDigits_nil
    rw [List.append_nil] at reads
    rw [reads, if_neg (by simp [some])]

theorem read_of_loneSign {kind : IntKind} {text : List Char} (lone : LoneSign kind text) :
    read kind text = some (zero kind) := by
  obtain ⟨some, negative, mark⟩ := lone
  have noDigits : ∀ c ∈ ([] : List Char), c.isDigit = true := by simp
  have reads := read_eq kind mark (fun none => absurd none some) noDigits Calendar.stopsDigits_nil
  rw [List.append_nil, List.append_nil] at reads
  have zeroed : signed negative (Nat.ofDigitChars 10 [] 0) = (zero kind).val := by cases negative <;> rfl
  rw [reads, if_neg (by simp [some]), zeroed, Word.ofInt?_val]

/-- Nothing else is read. -/
theorem of_read_eq_some {kind : IntKind} {text : List Char} {word : Word kind} (reads : read kind text = some word) :
    Writes kind text word.val ∨ LoneSign kind text := by
  obtain ⟨sign, negative, digits, rest, mark, bare, each, stops, rfl⟩ := exists_front kind text
  rw [read_eq kind mark bare each stops] at reads
  split at reads
  · cases reads
  · rename_i whole
    obtain ⟨taken, left⟩ := not_or.mp whole
    obtain rfl := not_ne_iff.mp left
    rw [List.append_nil]
    by_cases none : digits = []
    · subst none
      rw [List.append_nil] at taken ⊢
      exact .inr ⟨taken, negative, mark⟩
    · rw [Word.ofInt?_eq_some_iff.mp reads]
      exact .inl (.intro mark none each)

/-- The text of an integer is a minus if it is below zero, and the digits of its magnitude. -/
theorem toList_toString (number : Int) :
    (toString number).toList = (if number < 0 then ['-'] else []) ++ Nat.toDigits 10 number.natAbs := by
  rw [Int.toString_eq_repr, Int.repr_eq_if]
  by_cases negative : number < 0
  · have magnitude : (-number).toNat = number.natAbs := by omega
    rw [if_neg (by omega), if_pos negative, String.toList_append, magnitude, Nat.toList_repr]
    rfl
  · have magnitude : number.toNat = number.natAbs := by omega
    rw [if_pos (by omega), if_neg negative, List.nil_append, magnitude, Nat.toList_repr]

theorem isBlank_of_mem_toString {number : Int} {c : Char} (member : c ∈ (toString number).toList) :
    Text.isBlank c = false := by
  rw [toList_toString] at member
  rcases List.mem_append.mp member with sign | digit
  · split at sign
    · rw [List.mem_singleton.mp sign]
      rfl
    · cases sign
  · exact Text.isBlank_of_isDigit (Nat.isDigit_of_mem_toDigits (by decide) (by decide) digit)

end IntegerText

theorem Word.toList_text {kind : IntKind} (word : Word kind) :
    word.text.toList = (if word.val < 0 then ['-'] else []) ++ Nat.toDigits 10 word.val.natAbs :=
  IntegerText.toList_toString word.val

/-- A word's text is of the grammar and writes the word. -/
theorem Word.writes_text {kind : IntKind} (word : Word kind) : IntegerText.Writes kind word.text.toList word.val := by
  have each (c : Char) (member : c ∈ Nat.toDigits 10 word.val.natAbs) : c.isDigit = true :=
    Nat.isDigit_of_mem_toDigits (by decide) (by decide) member
  have value : Nat.ofDigitChars 10 (Nat.toDigits 10 word.val.natAbs) 0 = word.val.natAbs :=
    Nat.ofDigitChars_toDigits (by decide) (by decide)
  rw [word.toList_text]
  split
  · rename_i negative
    have hasSigns : kind.isSigned = true := by
      have least := word.fits.1
      cases kind <;> first | rfl | exact absurd negative (Int.not_lt.mpr least)
    have writes := IntegerText.Writes.intro (.minus hasSigns) Nat.toDigits_ne_nil each
    rwa [value, IntegerText.signed, if_pos rfl, show -(word.val.natAbs : Int) = word.val by omega] at writes
  · rename_i positive
    have mark : IntegerText.Sign kind [] false := .none
    have writes := IntegerText.Writes.intro mark Nat.toDigits_ne_nil each
    rwa [value, IntegerText.signed, if_neg Bool.false_ne_true,
      show (word.val.natAbs : Int) = word.val by omega] at writes

theorem Word.isBlank_of_mem_text {kind : IntKind} {word : Word kind} {c : Char} (member : c ∈ word.text.toList) :
    Text.isBlank c = false := IntegerText.isBlank_of_mem_toString member

theorem Word.read_text {kind : IntKind} (word : Word kind) : IntegerText.read kind word.text.toList = some word := by
  rw [IntegerText.read_of_writes word.writes_text, Word.ofInt?_val]

namespace IntegerText

theorem parse_integer (kind : IntKind) (text : String) : (DataType.scalar (.integer kind)).parse text =
    match read kind (Text.trim text.toList) with
    | some word => .ok word
    | none => .error (Reading.unparsable (Text.trimmed text) kind.typeName) := by
  have trimmed : (Text.trimmed text).toList = Text.trim text.toList := String.toList_ofList
  unfold DataType.parse Reading.scalar Reading.trimmedScalar
  cases reads : read kind (Text.trim text.toList) <;> simp only [trimmed, reads]

/-- A text is read as an integer just when the grammar of its kind has it, and as the number that it writes. Besides,
a sign alone is read as zero. -/
theorem integers_read_by_grammar (kind : IntKind) :
    (∀ text : String, HasRoom kind (Text.trim text.toList) →
      (∀ number, Writes kind (Text.trim text.toList) number →
        ∃ word : Word kind, word.val = number ∧ (DataType.scalar (.integer kind)).parse text = .ok word) ∧
      (LoneSign kind (Text.trim text.toList) →
        (DataType.scalar (.integer kind)).parse text = .ok (zero kind)) ∧
      ((∀ number, ¬ Writes kind (Text.trim text.toList) number) → ¬ LoneSign kind (Text.trim text.toList) →
        (DataType.scalar (.integer kind)).parse text =
          .error (Reading.unparsable (Text.trimmed text) kind.typeName))) ∧
    ∀ word : Word kind, (DataType.scalar (.integer kind)).parse word.text = .ok word := by
  constructor
  · intro text room
    rw [parse_integer]
    refine ⟨?_, ?_, ?_⟩
    · intro number writes
      have fits := room _ number writes (List.prefix_refl _)
      have word : Word.ofInt? kind number = some ⟨number, fits⟩ := dif_pos fits
      refine ⟨⟨number, fits⟩, rfl, ?_⟩
      rw [read_of_writes writes, word]
    · intro lone
      rw [read_of_loneSign lone]
    · intro unwritten noSign
      cases reads : read kind (Text.trim text.toList) with
      | none => rfl
      | some word =>
        rcases of_read_eq_some reads with writes | lone
        · exact absurd writes (unwritten word.val)
        · exact absurd lone noSign
  · intro word
    have trimmed : Text.trim word.text.toList = word.text.toList := by
      have same := congrArg String.toList (Text.trimmed_of_visible fun _ => word.isBlank_of_mem_text)
      rwa [Text.trimmed, String.toList_ofList] at same
    rw [parse_integer, trimmed, word.read_text]

/-- A text has room if every part at its front is read. -/
theorem hasRoom_of_reads {kind : IntKind} {text : List Char}
    (reads : ∀ front ∈ text.inits, front ≠ [] → (read kind front).isSome = true) : HasRoom kind text := by
  intro front number writes isPrefix
  have some : front ≠ [] := by
    cases writes with
    | intro mark some each => simp [some]
  obtain ⟨word, written⟩ := Option.isSome_iff_exists.mp (reads front ((List.mem_inits front text).mpr isPrefix) some)
  rw [read_of_writes writes] at written
  exact Word.ofInt?_eq_some_iff.mp written ▸ word.fits

/-- The least byte is read, with blanks of two kinds around it. -/
theorem least_byte_is_read :
    HasRoom .i8 (Text.trim "\u2003-128\n".toList) ∧ Writes .i8 (Text.trim "\u2003-128\n".toList) (-128) ∧
      ∃ word : Word .i8, word.val = -128 ∧ (DataType.scalar (.integer .i8)).parse "\u2003-128\n" = .ok word := by
  have trimmed : Text.trim "\u2003-128\n".toList = ['-'] ++ ['1', '2', '8'] := by decide +kernel
  have room : HasRoom .i8 (Text.trim "\u2003-128\n".toList) := by
    rw [trimmed]
    exact hasRoom_of_reads (by decide)
  have writes : Writes .i8 (Text.trim "\u2003-128\n".toList) (-128) := by
    rw [trimmed]
    exact .intro (.minus rfl) (by decide) (by simp)
  exact ⟨room, writes, ((integers_read_by_grammar .i8).1 _ room).1 (-128) writes⟩

/-- A minus alone is read as zero, though it writes no number. -/
theorem lone_minus_is_read :
    HasRoom .i32 (Text.trim "-".toList) ∧ (∀ number, ¬ Writes .i32 (Text.trim "-".toList) number) ∧
      (DataType.scalar (.integer .i32)).parse "-" = .ok (zero .i32) := by
  have trimmed : Text.trim "-".toList = ['-'] := by decide +kernel
  rw [parse_integer, trimmed]
  refine ⟨hasRoom_of_reads (by decide), ?_, rfl⟩
  intro number writes
  generalize text : ['-'] = whole at writes
  cases writes with
  | intro mark some each =>
    cases mark with
    | none =>
      rw [List.nil_append] at text
      have digit := each '-' (text ▸ List.mem_singleton_self _)
      cases digit
    | plus => simp at text
    | minus => exact some (List.cons.inj text).2.symm

end IntegerText

end Polystore
