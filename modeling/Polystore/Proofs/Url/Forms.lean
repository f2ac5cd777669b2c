import Polystore.Proofs.Text.Percent
import Polystore.Proofs.Text.Split
import Polystore.Url.Basic
import Polystore.Url.Parameters

/-!
Parameters as a form encodes them. The text of a form may have been escaped as the query of a url is, which changes
neither its marks nor what its parts are decoded to; so the parameters of a query are those of the text that it was
made from.
-/
namespace Polystore.Parameters

open Text Text.Percent

/-- A plus sign is a blank. -/
def blanked (c : Char) : Char := if c = '+' then ' ' else c

theorem blanked_of_ne {c : Char} (other : c ≠ '+') : blanked c = c := if_neg other

theorem map_blanked_of_not_mem {text : List Char} (plain : '+' ∉ text) : text.map blanked = text := by
  refine (List.map_congr_left fun c member => ?_).trans (List.map_id text)
  exact blanked_of_ne fun plus => plain (plus ▸ member)

theorem toList_formText (text : List Char) :
    (formText text).toList = decodeLenientChars (unescaped (text.map blanked)) := by
  have shown : formText text = decodeLenient (decode (bytesOf (String.ofList (text.map blanked)))) := rfl
  rw [shown, bytesOf_ofList, decodeLenient, String.toList_ofList, unescaped]

theorem digitValue?_blanked (c : Char) : Hex.digitValue? (blanked c) = Hex.digitValue? c := by
  by_cases plus : c = '+'
  · subst plus
    decide
  · rw [blanked_of_ne plus]

theorem pair?_map_blanked (text : List Char) : pair? (text.map blanked) = pair? text := by
  rcases text with _ | ⟨high, _ | ⟨low, rest⟩⟩
  · rfl
  · rfl
  · rw [List.map_cons, List.map_cons, pair?, pair?, digitValue?_blanked, digitValue?_blanked]

theorem blanked_eq_sign_iff {c : Char} : blanked c = '%' ↔ c = '%' := by
  by_cases plus : c = '+'
  · subst plus
    decide
  · rw [blanked_of_ne plus]

theorem hasEscape_map_blanked (text : List Char) : hasEscape (text.map blanked) = hasEscape text := by
  induction text with
  | nil => rfl
  | cons c rest ih => simp only [List.map_cons, hasEscape, pair?_map_blanked, blanked_eq_sign_iff, ih]

/-- A text without escapes is read as it is, but for the blanks. -/
theorem toList_formText_of_plain {text : List Char} (plain : hasEscape text = false) :
    (formText text).toList = text.map blanked := by
  rw [toList_formText, unescaped_of_plain (by rw [hasEscape_map_blanked, plain]), decodeLenientChars_encoded]

theorem length_formText_le (text : List Char) : (formText text).toList.length ≤ text.length := by
  have shorter := (length_decodeLenientChars_unescaped (text.map blanked)).1
  rwa [← toList_formText, List.length_map] at shorter

theorem length_formText_lt {text : List Char} (escape : hasEscape text = true) :
    (formText text).toList.length < text.length := by
  have shorter := (length_decodeLenientChars_unescaped (text.map blanked)).2
  rw [hasEscape_map_blanked, ← toList_formText, List.length_map] at shorter
  exact shorter escape

/-! ### The escapes of queries -/

/-- What a query escapes, besides characters beyond ASCII. -/
def isQueryMark (c : Char) : Bool := (c.toNat < 32 || c.toNat = 127) || " \"#<>".toList.contains c

/-- A character in a query. -/
def queryChar : Char → List Char := encodeChar isQueryMark

theorem escapeQuery_eq (text : List Char) : Url.escapeQuery text = text.flatMap queryChar := by
  have shown : Url.escapeQuery text = (Percent.encode isQueryMark (String.ofList text)).toList := rfl
  rw [shown, toList_encode, String.toList_ofList]
  rfl

/-- A character stays as it is in a query, or all its bytes are escaped. -/
theorem queryChar_cases (c : Char) : queryChar c = [c] ∧ c.toNat < 128 ∧ isQueryMark c = false ∨
    queryChar c = (String.utf8EncodeChar c).flatMap escape ∧ (c.toNat < 128 → isQueryMark c = true) := by
  by_cases kept : c.toNat < 128 ∧ isQueryMark c = false
  · exact .inl ⟨encodeChar_kept kept.1 kept.2, kept⟩
  · have outside : c.toNat < 128 → isQueryMark c = true := fun ascii => by simpa [ascii] using kept
    exact .inr ⟨encodeChar_escaped outside, outside⟩

/-- A character in a query, as a form reads it. -/
def queryBlanked (c : Char) : List Char := (queryChar c).map blanked

theorem queryBlanked_cases (c : Char) : queryBlanked c = [blanked c] ∧ isQueryMark c = false ∨
    queryBlanked c = (String.utf8EncodeChar c).flatMap escape ∧ blanked c = c ∧ c ≠ '%' ∧
      Hex.digitValue? c = none := by
  rcases queryChar_cases c with ⟨shown, -, unmarked⟩ | ⟨shown, marked⟩
  · exact .inl ⟨by rw [queryBlanked, shown, List.map_singleton], unmarked⟩
  · have different (other : Char) (ascii : other.toNat < 128) (unmarked : isQueryMark other = false) : c ≠ other := by
      rintro rfl
      rw [marked ascii] at unmarked
      cases unmarked
    have untouched : ((String.utf8EncodeChar c).flatMap escape).map blanked =
        (String.utf8EncodeChar c).flatMap escape := map_blanked_of_not_mem (not_mem_escapes (by decide) _)
    refine .inr ⟨by rw [queryBlanked, shown, untouched], blanked_of_ne (different '+' (by decide) (by decide)),
      different '%' (by decide) (by decide), ?_⟩
    cases digit : Hex.digitValue? c with
    | none => rfl
    | some value =>
      have each : ∀ c : Char, c.toNat < 128 → Hex.digitValue? c ≠ none → isQueryMark c = false :=
        forall_char_lt (by decide +kernel)
      have ascii := lt_of_digitValue? digit
      have unmarked := each c ascii (by rw [digit]; exact Option.some_ne_none value)
      rw [marked ascii] at unmarked
      cases unmarked

theorem pair?_of_digitValue? {first : Char} (other : Hex.digitValue? first = none) (rest : List Char) :
    pair? (first :: rest) = none := by
  cases rest with
  | nil => rfl
  | cons low rest => rw [pair?, other]; rfl

/-- A digit is the same digit in a query, and nothing else begins with one there. -/
theorem queryBlanked_front (c : Char) : ∃ first more, queryBlanked c = first :: more ∧
    Hex.digitValue? first = Hex.digitValue? c ∧ (Hex.digitValue? c ≠ none → more = []) := by
  rcases queryBlanked_cases c with ⟨shown, -⟩ | ⟨shown, -, -, none⟩
  · exact ⟨_, _, shown, digitValue?_blanked c, fun _ => rfl⟩
  · obtain ⟨b, bytes, encoded⟩ := List.exists_cons_of_ne_nil (String.utf8EncodeChar_ne_nil (c := c))
    rw [encoded] at shown
    exact ⟨_, _, shown, none.symm, fun some => absurd none some⟩

/-- Two digits at the front of a text are at the front of it in a query. -/
theorem pair?_query (rest : List Char) : pair? (rest.flatMap queryBlanked) = pair? (rest.map blanked) ∧
    (pair? (rest.map blanked) ≠ none → (rest.flatMap queryBlanked).drop 2 = (rest.drop 2).flatMap queryBlanked) := by
  rw [pair?_map_blanked]
  cases rest with
  | nil => exact ⟨rfl, fun some => absurd rfl some⟩
  | cons high rest =>
    obtain ⟨first, more, shown, same, alone⟩ := queryBlanked_front high
    rw [List.flatMap_cons, shown, List.cons_append]
    by_cases other : Hex.digitValue? high = none
    · rw [pair?_of_digitValue? other, pair?_of_digitValue? (same.trans other)]
      exact ⟨rfl, fun some => absurd rfl some⟩
    · obtain rfl := alone other
      rw [List.nil_append]
      cases rest with
      | nil => exact ⟨rfl, fun some => absurd rfl some⟩
      | cons low rest =>
        obtain ⟨second, more, shown, lowSame, lowAlone⟩ := queryBlanked_front low
        rw [List.flatMap_cons, shown, List.cons_append, pair?, pair?, same, lowSame]
        refine ⟨rfl, fun pair => ?_⟩
        have lowDigit : Hex.digitValue? low ≠ none := by
          intro none
          rw [none] at pair
          cases digit : Hex.digitValue? high <;> rw [digit] at pair <;> exact pair rfl
        obtain rfl := lowAlone lowDigit
        rfl

theorem unescaped_query (text : List Char) :
    unescaped (text.flatMap queryBlanked) = unescaped (text.map blanked) := by
  match text with
  | [] => rfl
  | c :: rest =>
    have behind := unescaped_query rest
    rw [List.flatMap_cons, List.map_cons]
    rcases queryBlanked_cases c with ⟨shown, -⟩ | ⟨shown, same, plain, -⟩
    · rw [shown, List.singleton_append]
      by_cases sign : blanked c = '%'
      · rw [sign]
        obtain ⟨same, further⟩ := pair?_query rest
        cases pair : pair? (rest.map blanked) with
        | some b =>
          have some : pair? (rest.map blanked) ≠ none := by
            rw [pair]
            exact Option.some_ne_none b
          rw [unescaped_pair (same.trans pair), unescaped_pair pair, further some, unescaped_query (rest.drop 2),
            List.map_drop]
        | none => rw [unescaped_sign (same.trans pair), unescaped_sign pair, behind]
      · rw [unescaped_char sign, unescaped_char sign, behind]
    · rw [shown, same, unescaped_char plain, ← behind, unescaped, List.flatMap_append, decode_escapes]
      rfl
termination_by text.length
decreasing_by all_goals simp only [List.length_drop, List.length_cons]; omega

/-- A part of a query is decoded to what the text was that it was made from. -/
theorem formText_query (text : List Char) : formText (text.flatMap queryChar) = formText text := by
  have shown : (text.flatMap queryChar).map blanked = text.flatMap queryBlanked := List.map_flatMap
  refine String.toList_injective ?_
  rw [toList_formText, toList_formText, shown, unescaped_query]

/-- A mark that is neither escaped nor part of an escape stays a mark, and nothing else becomes one. -/
theorem queryChar_mark {mark : Char} (ascii : mark.toNat < 128) (unmarked : isQueryMark mark = false)
    (reserved : mark ≠ '%' ∧ isUnreserved mark = false) :
    queryChar mark = [mark] ∧ ∀ c, c ≠ mark → mark ∉ queryChar c := by
  refine ⟨encodeChar_kept ascii unmarked, fun c other => ?_⟩
  rcases queryChar_cases c with ⟨shown, -⟩ | ⟨shown, -⟩
  · rw [shown, List.mem_singleton]
    exact Ne.symm other
  · rw [shown]
    exact not_mem_escapes reserved _

theorem formPair_eq (text : List Char) :
    formPair text = ⟨formText (cut '=' text).1, formText ((cut '=' text).2.getD [])⟩ := rfl

theorem formPair_query (text : List Char) : formPair (text.flatMap queryChar) = formPair text := by
  obtain ⟨kept, none⟩ : queryChar '=' = ['='] ∧ ∀ c, c ≠ '=' → '=' ∉ queryChar c :=
    queryChar_mark (by decide) (by decide) (by decide)
  rw [formPair_eq, formPair_eq, cut_flatMap kept none, formText_query]
  cases (cut '=' text).2 with
  | none => rfl
  | some value => exact congrArg (Named.mk _) (formText_query value)

/-- The parameters of a query are those of the text that it was made from. -/
theorem ofQuery_escapeQuery (text : List Char) : ofQuery (Url.escapeQuery text) = ofQuery text := by
  obtain ⟨kept, none⟩ : queryChar '&' = ['&'] ∧ ∀ c, c ≠ '&' → '&' ∉ queryChar c :=
    queryChar_mark (by decide) (by decide) (by decide)
  have filled (part : List Char) : (!(part.flatMap queryChar).isEmpty) = !part.isEmpty := by
    cases part with
    | nil => rfl
    | cons c rest =>
      have some : queryChar c ≠ [] := by
        intro nothing
        obtain ⟨first, more, shown, -⟩ := queryBlanked_front c
        rw [queryBlanked, nothing] at shown
        cases shown
      simp [some]
  rw [ofQuery, ofQuery, escapeQuery_eq, split_flatMap kept none, List.filter_map, List.map_map]
  simp only [Function.comp_def, filled, formPair_query]

end Polystore.Parameters
