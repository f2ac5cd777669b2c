/-!
Text patterns: a percent sign stands for any run of characters, an underscore for exactly one, and every
other character for itself. `Matches` states when a text has the form of a pattern; `accepts` decides it with
one place to return to, the last percent sign met.
-/
namespace Polystore.Text.Like

/-- The texts of the form of a pattern. -/
inductive Matches : List Char → List Char → Prop where
  | done : Matches [] []
  | run {pattern rest : List Char} (front : List Char) (matched : Matches pattern rest) :
      Matches ('%' :: pattern) (front ++ rest)
  | one {pattern rest : List Char} (letter : Char) (matched : Matches pattern rest) :
      Matches ('_' :: pattern) (letter :: rest)
  | same {pattern rest : List Char} {letter : Char} (notRun : letter ≠ '%') (notOne : letter ≠ '_')
      (matched : Matches pattern rest) : Matches (letter :: pattern) (letter :: rest)

/-- Where to go on when the rest of a pattern does not fit: with the pattern behind the last percent sign,
on the text behind what that sign stands for so far. -/
structure Retreat where
  pattern : List Char
  text : List Char

/-- The pattern behind its first mark, when that mark stands for the character. -/
def fit? (letter : Char) : List Char → Option (List Char)
  | mark :: pattern => if mark = '_' ∨ mark = letter then some pattern else none
  | [] => none

theorem length_of_fit? {letter : Char} {pattern rest : List Char} (found : fit? letter pattern = some rest) :
    rest.length < pattern.length := by
  unfold fit? at found
  split at found
  · split at found <;> simp_all
  · simp at found

/-- How many characters a match has before it, counted from the place to return to. -/
def budget (text : List Char) (retreat : Option Retreat) : Nat :=
  retreat.elim (text.length + 1) (·.text.length)

/-- Matches the rest of a text against the rest of a pattern. When they do not fit, the last percent sign
takes one more character. -/
def scan (text pattern : List Char) (retreat : Option Retreat)
    (behind : ∀ place ∈ retreat, text.length ≤ place.text.length) : Bool :=
  match text with
  | [] => pattern.all (· = '%')
  | letter :: rest =>
    match pattern with
    | '%' :: pattern => scan (letter :: rest) pattern (some ⟨pattern, letter :: rest⟩) (by simp)
    | pattern =>
      match _ : fit? letter pattern with
      | some pattern => scan rest pattern retreat fun place held => Nat.le_of_succ_le (behind place held)
      | none =>
        match retreat with
        | some ⟨pattern, _ :: rest⟩ => scan rest pattern (some ⟨pattern, rest⟩) (by simp)
        | _ => false
termination_by (budget text retreat, pattern.length)
decreasing_by
  · cases retreat with
    | none => exact Prod.Lex.left _ _ (by simp [budget])
    | some place =>
      rcases Nat.lt_or_eq_of_le (behind place rfl) with shorter | same
      · exact Prod.Lex.left _ _ (by simpa [budget] using shorter)
      · simp only [budget, Option.elim, same, List.length_cons]
        exact Prod.Lex.right _ (by simp)
  · cases retreat with
    | none => exact Prod.Lex.left _ _ (by simp [budget])
    | some place => exact Prod.Lex.right _ (length_of_fit? ‹_›)
  · exact Prod.Lex.left _ _ (by simp [budget])

/-- Whether a text has the form of a pattern. -/
def accepts (text pattern : String) : Bool := scan text.toList pattern.toList none (by simp)

end Polystore.Text.Like
