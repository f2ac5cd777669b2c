import Mathlib.Data.List.Forall2
import Polystore.Text.Like

/-!
Text patterns are decided exactly. A scan remembers only the last percent sign it has met. Nothing is lost by that: what
an earlier sign could take more of the text, the last one can take as well, since between two signs every element of a
pattern stands for one character. Read as a loop over places in the text and in the pattern, the scan ends, and looks
behind the end of neither.
-/
namespace Polystore.Text.Like

/-- What an element of a pattern stands for: any run of characters, any character, or itself. -/
def StandsFor (mark : Char) (piece : List Char) : Prop :=
  if mark = '%' then True else if mark = '_' then piece.length = 1 else piece = [mark]

variable {text pattern : List Char}

/-- A text has the form of a pattern if it is put together from what the elements stand for. -/
theorem matches_iff_exists_pieces :
    Matches pattern text ↔ ∃ pieces, List.Forall₂ StandsFor pattern pieces ∧ pieces.flatten = text := by
  constructor
  · intro matched
    induction matched with
    | done => exact ⟨[], .nil, rfl⟩
    | run front _ ih =>
      obtain ⟨pieces, stand, whole⟩ := ih
      exact ⟨front :: pieces, .cons (by simp [StandsFor]) stand, by simp [whole]⟩
    | one letter _ ih =>
      obtain ⟨pieces, stand, whole⟩ := ih
      exact ⟨[letter] :: pieces, .cons (by simp [StandsFor]) stand, by simp [whole]⟩
    | @same _ _ letter notRun notOne _ ih =>
      obtain ⟨pieces, stand, whole⟩ := ih
      exact ⟨[letter] :: pieces, .cons (by simp [StandsFor, notRun, notOne]) stand, by simp [whole]⟩
  · rintro ⟨pieces, stand, rfl⟩
    induction stand with
    | nil => exact .done
    | @cons mark piece pattern pieces here _ ih =>
      rw [List.flatten_cons]
      unfold StandsFor at here
      split at here
      · rename_i percent
        exact percent ▸ .run piece ih
      · split at here
        · rename_i underscore
          obtain ⟨letter, rfl⟩ := List.length_eq_one_iff.mp here
          exact underscore ▸ .one letter ih
        · rename_i notRun notOne
          exact here ▸ .same notRun notOne ih

theorem matches_run_iff : Matches ('%' :: pattern) text ↔ ∃ rest, rest <:+ text ∧ Matches pattern rest := by
  constructor
  · intro matched
    cases matched with
    | run front matched => exact ⟨_, List.suffix_append front _, matched⟩
    | same notRun => exact absurd rfl notRun
  · rintro ⟨rest, ⟨front, rfl⟩, matched⟩
    exact .run front matched

/-- A percent sign that matches the end of a text matches the text. -/
theorem Matches.of_suffix {rest : List Char} (matched : Matches ('%' :: pattern) rest) (ends : rest <:+ text) :
    Matches ('%' :: pattern) text := by
  obtain ⟨last, inner, matched⟩ := matches_run_iff.mp matched
  exact matches_run_iff.mpr ⟨last, inner.trans ends, matched⟩

/-- An element other than the percent sign takes one character. -/
theorem matches_mark_iff {mark : Char} (notRun : mark ≠ '%') :
    Matches (mark :: pattern) text ↔
      ∃ letter rest, text = letter :: rest ∧ (mark = '_' ∨ mark = letter) ∧ Matches pattern rest := by
  constructor
  · intro matched
    cases matched with
    | run => exact absurd rfl notRun
    | one letter matched => exact ⟨letter, _, rfl, .inl rfl, matched⟩
    | same _ _ matched => exact ⟨mark, _, rfl, .inr rfl, matched⟩
  · rintro ⟨letter, rest, rfl, fits, matched⟩
    by_cases underscore : mark = '_'
    · exact underscore ▸ .one letter matched
    · obtain rfl := fits.resolve_left underscore
      exact .same notRun underscore matched

theorem matches_nil_iff : Matches pattern [] ↔ pattern.all (· = '%') = true := by
  induction pattern with
  | nil => exact ⟨fun _ => rfl, fun _ => .done⟩
  | cons mark pattern ih =>
    by_cases percent : mark = '%'
    · subst percent
      simp [matches_run_iff, ih]
    · simp [matches_mark_iff percent, percent]

/-- What `fit?` takes from a pattern stands for the character. -/
theorem matches_of_fit? {letter : Char} {rest further : List Char} (notRun : ∀ others, pattern ≠ '%' :: others)
    (fits : fit? letter pattern = some further) : Matches pattern (letter :: rest) ↔ Matches further rest := by
  cases pattern with
  | nil => cases fits
  | cons mark pattern =>
    have single : mark ≠ '%' := fun percent => notRun pattern (percent ▸ rfl)
    simp only [fit?] at fits
    split at fits
    · rename_i stands
      cases fits
      simp [matches_mark_iff single, stands]
    · cases fits

theorem not_matches_of_fit? {letter : Char} {rest : List Char} (notRun : ∀ others, pattern ≠ '%' :: others)
    (misfits : fit? letter pattern = none) : ¬ Matches pattern (letter :: rest) := by
  cases pattern with
  | nil => exact fun matched => by cases matched
  | cons mark pattern =>
    have single : mark ≠ '%' := fun percent => notRun pattern (percent ▸ rfl)
    simp only [fit?] at misfits
    split at misfits
    · cases misfits
    · rename_i differs
      rw [matches_mark_iff single]
      rintro ⟨other, others, same, stands, _⟩
      cases same
      exact differs stands

/-- Elements other than the percent sign take a character each. -/
theorem Matches.split {marks : List Char} (notRun : '%' ∉ marks) (matched : Matches (marks ++ pattern) text) :
    ∃ front rest, text = front ++ rest ∧ front.length = marks.length ∧ Matches pattern rest := by
  induction marks generalizing text with
  | nil => exact ⟨[], text, rfl, rfl, matched⟩
  | cons mark marks ih =>
    obtain ⟨single, others⟩ := not_or.mp (mt List.mem_cons.mpr notRun)
    obtain ⟨letter, later, rfl, _, matched⟩ := (matches_mark_iff (Ne.symm single)).mp matched
    obtain ⟨front, rest, rfl, length, matched⟩ := ih others matched
    exact ⟨letter :: front, rest, rfl, by simp [length], matched⟩

namespace Retreat

/-- The percent sign of a place takes at least one more character, and the rest of the text fits. -/
def Recovers (place : Retreat) : Prop :=
  ∃ letter rest, place.text = letter :: rest ∧ Matches ('%' :: place.pattern) rest

/-- From a place on, elements that take one character each have been matched with the text. -/
def LeadsTo (place : Retreat) (text pattern : List Char) : Prop :=
  ∃ marks front, place.pattern = marks ++ pattern ∧ place.text = front ++ text ∧ front.length = marks.length ∧
    '%' ∉ marks

theorem leadsTo_self (pattern text : List Char) : (Retreat.mk pattern text).LeadsTo text pattern :=
  ⟨[], [], rfl, rfl, rfl, List.not_mem_nil⟩

theorem LeadsTo.next {place : Retreat} {letter : Char} {rest further : List Char}
    (leads : place.LeadsTo (letter :: rest) pattern) (notRun : ∀ others, pattern ≠ '%' :: others)
    (fits : fit? letter pattern = some further) : place.LeadsTo rest further := by
  obtain ⟨marks, front, patterns, texts, length, single⟩ := leads
  cases pattern with
  | nil => cases fits
  | cons mark pattern =>
    have percent : '%' ≠ mark := fun percent => notRun pattern (percent ▸ rfl)
    simp only [fit?] at fits
    split at fits
    · cases fits
      exact ⟨marks ++ [mark], front ++ [letter], by simp [patterns], by simp [texts], by simp [length],
        by simp [single, percent]⟩
    · cases fits

/-- What an earlier percent sign could still match, the rest of the pattern matches at a later place of the text. -/
theorem LeadsTo.matches_later {place : Retreat} (leads : place.LeadsTo text pattern) (recovers : place.Recovers) :
    ∃ rest, rest <:+ text ∧ rest.length < text.length ∧ Matches pattern rest := by
  obtain ⟨marks, front, patterns, texts, length, single⟩ := leads
  obtain ⟨letter, later, shown, matched⟩ := recovers
  obtain ⟨taken, ends, matched⟩ := matches_run_iff.mp matched
  rw [patterns] at matched
  obtain ⟨read, rest, rfl, same, matched⟩ := matched.split single
  have whole : rest <:+ front ++ text := by
    rw [← texts, shown]
    exact ((List.suffix_append read rest).trans ends).trans (List.suffix_cons letter later)
  have counted := congrArg List.length (texts.symm.trans shown)
  have short := ends.length_le
  simp only [List.length_append, List.length_cons] at counted short
  have shorter : rest.length < text.length := by omega
  exact ⟨rest, List.suffix_of_suffix_length_le whole (List.suffix_append front text) (Nat.le_of_lt shorter), shorter,
    matched⟩

end Retreat

/-- A percent sign takes nothing, or at least one character. -/
theorem matches_run_iff_or :
    Matches ('%' :: pattern) text ↔ Matches pattern text ∨ (Retreat.mk pattern text).Recovers := by
  constructor
  · intro whole
    obtain ⟨rest, ends, matched⟩ := matches_run_iff.mp whole
    cases text with
    | nil => exact .inl (List.suffix_nil.mp ends ▸ matched)
    | cons letter others =>
      rcases List.suffix_cons_iff.mp ends with rfl | later
      · exact .inl matched
      · exact .inr ⟨letter, others, rfl, matches_run_iff.mpr ⟨rest, later, matched⟩⟩
  · rintro (matched | ⟨letter, rest, rfl, matched⟩)
    · exact .run [] matched
    · exact matched.of_suffix (List.suffix_cons letter rest)

/-- A scan finds whether the rest of the text fits, here or where the last percent sign takes more. -/
theorem scan_iff (text pattern : List Char) (retreat : Option Retreat)
    (behind : ∀ place ∈ retreat, text.length ≤ place.text.length)
    (leads : ∀ place ∈ retreat, place.LeadsTo text pattern) :
    scan text pattern retreat behind = true ↔ Matches pattern text ∨ ∃ place ∈ retreat, place.Recovers := by
  fun_induction scan text pattern retreat behind with
  | case1 pattern retreat behind =>
    rw [← matches_nil_iff]
    refine ⟨.inl, fun found => found.resolve_right ?_⟩
    rintro ⟨place, held, recovers⟩
    obtain ⟨rest, _, shorter, _⟩ := (leads place held).matches_later recovers
    exact Nat.not_lt_zero _ shorter
  | case2 retreat letter rest behind pattern _ ih =>
    -- The earlier place is given up: whatever it finds, the new percent sign finds too.
    have given : (∃ place ∈ retreat, place.Recovers) → Matches ('%' :: pattern) (letter :: rest) := by
      rintro ⟨place, held, recovers⟩
      obtain ⟨later, ends, _, matched⟩ := (leads place held).matches_later recovers
      exact matched.of_suffix ends
    have here := ih fun place held => Option.some.inj held ▸ Retreat.leadsTo_self pattern (letter :: rest)
    rw [here, or_iff_left_of_imp given, matches_run_iff_or]
    simp
  | case3 retreat letter rest behind pattern notRun further fits _ ih =>
    rw [ih fun place held => (leads place held).next notRun fits, matches_of_fit? notRun fits]
  | case4 letter rest pattern notRun misfits start head others behind _ ih =>
    have there := ih fun place held => Option.some.inj held ▸ Retreat.leadsTo_self start others
    have recovers : (∃ place ∈ some (Retreat.mk start (head :: others)), place.Recovers) ↔
        Matches ('%' :: start) others := by
      simp [Retreat.Recovers]
    rw [there, recovers, matches_run_iff_or, or_iff_right (not_matches_of_fit? notRun misfits)]
    simp
  | case5 retreat letter rest pattern notRun misfits behind nowhere =>
    refine ⟨fun found => Bool.noConfusion found, ?_⟩
    rintro (matched | ⟨⟨start, others⟩, held, next, later, shown, _⟩)
    · exact absurd matched (not_matches_of_fit? notRun misfits)
    · cases shown
      cases held
      exact (nowhere start next later behind rfl .rfl).elim

theorem accepts_iff_matches (text pattern : String) :
    accepts text pattern = true ↔ Matches pattern.toList text.toList := by
  rw [accepts, scan_iff _ _ _ _ (by simp)]
  simp

/-- Where the loop stands: its places in the text and in the pattern, and the place in the pattern behind the last
percent sign with that in the text behind what the sign stands for so far. -/
structure Stand where
  text : Nat
  pattern : Nat
  retreat : Option (Nat × Nat)

namespace Stand

def start : Stand := ⟨0, 0, none⟩

/-- What a turn of the loop leads to. -/
inductive Turn where
  | next (stand : Stand)
  | answer (matched : Bool)

/-- Back behind the last percent sign, which takes one more character. -/
def back (stand : Stand) : Turn :=
  match stand.retreat with
  | some (pattern, text) => .next ⟨text + 1, pattern, some (pattern, text + 1)⟩
  | none => .answer false

/-- One turn of the loop, none where it would look behind the end of the text or of the pattern. -/
def turn? (text pattern : List Char) (stand : Stand) : Option Turn :=
  if stand.text < text.length then
    match pattern[stand.pattern]? with
    | some '%' => some (.next ⟨stand.text, stand.pattern + 1, some (stand.pattern + 1, stand.text)⟩)
    | some mark => do
      let letter ← text[stand.text]?
      if mark = '_' ∨ mark = letter then return .next ⟨stand.text + 1, stand.pattern + 1, stand.retreat⟩
      else return stand.back
    | none => some stand.back
  else if stand.pattern ≤ pattern.length then some (.answer ((pattern.drop stand.pattern).all (· = '%')))
  else none

/-- From a stand on the loop ends with an answer, each of its turns inside the text and the pattern. -/
inductive EndsWith (text pattern : List Char) : Stand → Bool → Prop where
  | answer {stand : Stand} {matched : Bool} (turn : turn? text pattern stand = some (.answer matched)) :
      EndsWith text pattern stand matched
  | next {stand further : Stand} {matched : Bool} (turn : turn? text pattern stand = some (.next further))
      (ends : EndsWith text pattern further matched) : EndsWith text pattern stand matched

theorem EndsWith.unique {text pattern : List Char} {stand : Stand} {matched other : Bool}
    (ends : EndsWith text pattern stand matched) (again : EndsWith text pattern stand other) : matched = other := by
  induction ends with
  | answer turn =>
    cases again with
    | answer same => cases turn.symm.trans same; rfl
    | next same => cases turn.symm.trans same
  | next turn _ ih =>
    cases again with
    | answer same => cases turn.symm.trans same
    | next same ends => cases turn.symm.trans same; exact ih ends

/-- The state of a scan in which the loop stands: what is left of the text, of the pattern, and behind the place to
return to. -/
structure Leaves (text pattern : List Char) (stand : Stand) (textLeft patternLeft : List Char)
    (retreat : Option Retreat) : Prop where
  textLeft_eq : textLeft = text.drop stand.text
  patternLeft_eq : patternLeft = pattern.drop stand.pattern
  text_le : stand.text ≤ text.length
  pattern_le : stand.pattern ≤ pattern.length
  retreat_eq : retreat = stand.retreat.map fun place => ⟨pattern.drop place.1, text.drop place.2⟩
  retreat_le : ∀ place ∈ stand.retreat, place.1 ≤ pattern.length ∧ place.2 ≤ text.length

private theorem of_drop_eq_cons {items rest : List Char} {head : Char} {place : Nat}
    (left : head :: rest = items.drop place) :
    place < items.length ∧ items[place]? = some head ∧ rest = items.drop (place + 1) := by
  have inside : place < items.length := by
    refine Nat.lt_of_not_le fun beyond => ?_
    rw [List.drop_eq_nil_of_le beyond] at left
    cases left
  rw [List.drop_eq_getElem_cons inside] at left
  obtain ⟨rfl, rfl⟩ := List.cons.inj left
  exact ⟨inside, List.getElem?_eq_getElem inside, rfl⟩

variable {stand : Stand} {textLeft patternLeft : List Char} {retreat : Option Retreat}

/-- The loop goes back where the scan does. -/
theorem Leaves.back {head : Char} {others start : List Char}
    (leaves : Leaves text pattern stand textLeft patternLeft (some ⟨start, head :: others⟩)) :
    ∃ further, stand.back = .next further ∧ Leaves text pattern further others start (some ⟨start, others⟩) := by
  have held := leaves.retreat_eq
  cases place : stand.retreat with
  | none => simp [place] at held
  | some place' =>
    obtain ⟨patternPlace, textPlace⟩ := place'
    simp only [place, Option.map_some, Option.some.injEq, Retreat.mk.injEq] at held
    obtain ⟨startLeft, othersLeft⟩ := held
    obtain ⟨inside, _, rest⟩ := of_drop_eq_cons othersLeft
    obtain ⟨patternInside, _⟩ := leaves.retreat_le _ place
    refine ⟨⟨textPlace + 1, patternPlace, some (patternPlace, textPlace + 1)⟩, by rw [Stand.back, place], rest,
      startLeft, inside, patternInside, ?_, ?_⟩
    · simp [startLeft, rest]
    · simpa using ⟨patternInside, inside⟩

/-- A turn at a mark that is no percent sign. -/
theorem Leaves.turn?_eq {letter : Char} {rest : List Char}
    (leaves : Leaves text pattern stand (letter :: rest) patternLeft retreat)
    (notRun : ∀ others, patternLeft ≠ '%' :: others) :
    turn? text pattern stand =
      some (if (fit? letter patternLeft).isSome then .next ⟨stand.text + 1, stand.pattern + 1, stand.retreat⟩
        else stand.back) := by
  obtain ⟨inside, read, _⟩ := of_drop_eq_cons leaves.textLeft_eq
  rw [turn?, if_pos inside]
  cases patternLeft with
  | nil =>
    have behind : pattern[stand.pattern]? = none := by
      simpa using List.drop_eq_nil_iff.mp leaves.patternLeft_eq.symm
    simp [behind, fit?]
  | cons mark others =>
    obtain ⟨_, shown, _⟩ := of_drop_eq_cons leaves.patternLeft_eq
    have percent : mark ≠ '%' := fun percent => notRun others (percent ▸ rfl)
    rw [shown]
    split
    · rename_i same
      exact absurd (Option.some.inj same) percent
    · rename_i same
      cases same
      by_cases fits : mark = '_' ∨ mark = letter <;> simp [read, fit?, fits]
    · contradiction

/-- The loop ends with what the scan finds. -/
theorem Leaves.endsWith (behind : ∀ place ∈ retreat, textLeft.length ≤ place.text.length)
    (leaves : Leaves text pattern stand textLeft patternLeft retreat) :
    EndsWith text pattern stand (scan textLeft patternLeft retreat behind) := by
  fun_induction scan textLeft patternLeft retreat behind generalizing stand with
  | case1 patternLeft retreat behind =>
    have ended : ¬ stand.text < text.length := Nat.not_lt.mpr (List.drop_eq_nil_iff.mp leaves.textLeft_eq.symm)
    refine .answer ?_
    rw [turn?, if_neg ended, if_pos leaves.pattern_le, leaves.patternLeft_eq]
  | case2 retreat letter rest behind others _ ih =>
    obtain ⟨inside, _⟩ := of_drop_eq_cons leaves.textLeft_eq
    obtain ⟨patternInside, shown, further⟩ := of_drop_eq_cons leaves.patternLeft_eq
    have turn : turn? text pattern stand =
        some (.next ⟨stand.text, stand.pattern + 1, some (stand.pattern + 1, stand.text)⟩) := by
      simp [turn?, inside, shown]
    refine .next turn (ih ⟨leaves.textLeft_eq, further, leaves.text_le, patternInside, ?_, ?_⟩)
    · simp [further, leaves.textLeft_eq]
    · simpa using ⟨patternInside, leaves.text_le⟩
  | case3 retreat letter rest behind others notRun further fits _ ih =>
    obtain ⟨inside, _, textFurther⟩ := of_drop_eq_cons leaves.textLeft_eq
    have turn := leaves.turn?_eq notRun
    rw [fits, Option.isSome_some, if_pos rfl] at turn
    cases others with
    | nil => cases fits
    | cons mark others =>
      obtain ⟨patternInside, _, patternFurther⟩ := of_drop_eq_cons leaves.patternLeft_eq
      obtain rfl : others = further := by
        simp only [fit?] at fits
        split at fits <;> cases fits
        rfl
      exact .next turn (ih ⟨textFurther, patternFurther, inside, patternInside, leaves.retreat_eq, leaves.retreat_le⟩)
  | case4 letter rest others notRun misfits start head later behind _ ih =>
    obtain ⟨further, back, leavesFurther⟩ := leaves.back
    have turn := leaves.turn?_eq notRun
    rw [misfits, Option.isSome_none, if_neg Bool.false_ne_true, back] at turn
    exact .next turn (ih leavesFurther)
  | case5 retreat letter rest others notRun misfits behind nowhere =>
    have turn := leaves.turn?_eq notRun
    rw [misfits, Option.isSome_none, if_neg Bool.false_ne_true] at turn
    refine .answer (turn.trans ?_)
    have held := leaves.retreat_eq
    cases place : stand.retreat with
    | none => rw [Stand.back, place]
    | some place' =>
      rw [place, Option.map_some] at held
      have long := behind _ held
      cases later : text.drop place'.2 with
      | nil => simp [later] at long
      | cons head others =>
        rw [later] at held
        subst held
        exact (nowhere _ head others behind rfl .rfl).elim

end Stand

/-- A pattern accepts just the texts of its form: those put together from what its elements stand for, one after
another. The loop that finds it out ends for every text and every pattern, and never looks behind the end of either. -/
theorem loop_finds_form (text pattern : String) :
    (∀ matched, Stand.EndsWith text.toList pattern.toList .start matched ↔ matched = accepts text pattern) ∧
      (accepts text pattern = true ↔
        ∃ pieces, List.Forall₂ StandsFor pattern.toList pieces ∧ pieces.flatten = text.toList) := by
  constructor
  · have leaves : Stand.Leaves text.toList pattern.toList .start text.toList pattern.toList none :=
      ⟨rfl, rfl, Nat.zero_le _, Nat.zero_le _, rfl, by simp [Stand.start]⟩
    have ends : Stand.EndsWith text.toList pattern.toList .start (accepts text pattern) := leaves.endsWith _
    exact fun matched => ⟨fun other => other.unique ends, fun same => same ▸ ends⟩
  · rw [accepts_iff_matches, matches_iff_exists_pieces]

/-- The percent sign takes the first letter before the rest of the pattern fits. -/
example : accepts "aab" "%ab" = true := by cbv

end Polystore.Text.Like
