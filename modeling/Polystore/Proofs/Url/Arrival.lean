import Polystore.Proofs.Url.Lengths

/-!
Encoded parameters that arrive. A url is decoded before it is read and its parameters are decoded again, so that an
encoded parameter arrives just when the marks of urls and forms, and escapes, do not occur in it.
-/
namespace Polystore.Parameters

open Polystore.Action Text Text.Percent

/-! ### What arrives -/

/-- A text in which neither a url nor a form finds anything. -/
structure Inert (text : String) : Prop where
  marks : ∀ c ∈ text.toList, c ∉ ['&', '#', '+', '\t', '\n', '\r']
  plain : hasEscape text.toList = false

instance (text : String) : Decidable (Inert text) :=
  decidable_of_iff
    ((text.toList.all fun c => decide (c ∉ ['&', '#', '+', '\t', '\n', '\r'])) ∧ ¬ hasEscape text.toList) (by
      rw [List.all_eq_true, Bool.not_eq_true]
      exact ⟨fun both => ⟨fun c member => of_decide_eq_true (both.1 c member), both.2⟩,
        fun inert => ⟨fun c member => decide_eq_true (inert.marks c member), inert.plain⟩⟩)

/-- Parameters that are read as they stand in a url. -/
structure Literal (pairs : List (Named String)) : Prop where
  names : ∀ item ∈ pairs, Inert item.name ∧ '=' ∉ item.name.toList
  values : ∀ item ∈ pairs, Inert item.value
  last : ∀ item ∈ pairs.getLast?, ∀ c ∈ item.value.toList.getLast?, 32 < c.toNat

instance (pairs : List (Named String)) : Decidable (Literal pairs) :=
  decidable_of_iff
    ((∀ item ∈ pairs, Inert item.name ∧ '=' ∉ item.name.toList) ∧ (∀ item ∈ pairs, Inert item.value) ∧
      pairs.getLast?.all fun item => item.value.toList.getLast?.all fun c => decide (32 < c.toNat)) (by
      simp only [Option.all_eq_true, decide_eq_true_eq]
      exact ⟨fun each => ⟨each.1, each.2.1, each.2.2⟩, fun literal => ⟨literal.names, literal.values, literal.last⟩⟩)

theorem Inert.map_blanked {text : String} (inert : Inert text) : text.toList.map blanked = text.toList :=
  map_blanked_of_not_mem fun plus => inert.marks '+' plus (by decide)

theorem Inert.formText_eq {text : String} (inert : Inert text) : formText text.toList = text :=
  String.toList_injective ((toList_formText_of_plain inert.plain).trans inert.map_blanked)

theorem Literal.separate {pairs : List (Named String)} (literal : Literal pairs) : Separate (pairs.map entryOf) := by
  refine separate_map_entryOf (fun item present c inside => ?_) (fun item present => (literal.names item present).2)
    (fun item last c ends => ?_)
  · have outside : c ∉ ['&', '#', '+', '\t', '\n', '\r'] :=
      inside.elim ((literal.names item present).1.marks c) ((literal.values item present).marks c)
    simp only [List.mem_cons, List.not_mem_nil, or_false, not_or] at outside
    simp [isBreak, outside]
  · have beyond := literal.last item last c ends
    rw [isMargin, decide_eq_false_iff_not]
    omega

theorem Literal.ofQuery_visible {pairs : List (Named String)} (literal : Literal pairs) :
    ofQuery (visible (joined (pairs.map entryOf))) = pairs := by
  rw [literal.separate.ofQuery_visible, List.map_map]
  refine (List.map_congr_left fun item member => ?_).trans (List.map_id pairs)
  have name := (literal.names item member).1.formText_eq
  have value := (literal.values item member).formText_eq
  rw [Function.comp_apply, entryOf, name, value]
  rfl

theorem not_mem_map_blanked (text : List Char) : '+' ∉ text.map blanked := by
  intro member
  obtain ⟨c, -, shown⟩ := List.mem_map.mp member
  by_cases plus : c = '+'
  · subst plus
    revert shown
    decide
  · exact plus ((blanked_of_ne plus).symm.trans shown)

theorem mem_of_mem_map_blanked {c : Char} (other : c ≠ ' ') {text : List Char} (member : c ∈ text.map blanked) :
    c ∈ text := by
  obtain ⟨d, inside, rfl⟩ := List.mem_map.mp member
  by_cases plus : d = '+'
  · subst plus
    exact absurd (by decide) other
  · rwa [blanked_of_ne plus]

/-- What is read of an entry at full length has no sign of equality in its name and no plus. -/
theorem signs_of_weight_eq {entry : Entry} (full : weight (formPair entry.text) = entry.text.length) :
    '=' ∉ (formPair entry.text).name.toList ∧ '+' ∉ (formPair entry.text).name.toList ∧
      '+' ∉ (formPair entry.text).value.toList := by
  obtain ⟨other, plain, shape⟩ := exists_entry entry.mem_text
  rw [shape] at full ⊢
  obtain ⟨name, value⟩ := plain_of_weight_eq plain full
  rw [formPair_text plain, toList_formText_of_plain name, toList_formText_of_plain value]
  exact ⟨fun sign => plain (mem_of_mem_map_blanked (by decide) sign), not_mem_map_blanked _, not_mem_map_blanked _⟩

/-- Parameters that a url has in some order do not have any marks in them. -/
theorem literal_of_perm {pairs : List (Named String)}
    (reordered : (ofQuery (visible (joined (pairs.map entryOf)))).Perm pairs) : Literal pairs := by
  obtain ⟨clean, unsigned, each⟩ := full_of_perm reordered
  rw [ofQuery_visible_of_unmarked clean unsigned fun entry member => (each entry member).1] at reordered
  -- Each parameter is what some entry is read as, and no such thing has one of these signs.
  have signs (item : Named String) (member : item ∈ pairs) :
      '=' ∉ item.name.toList ∧ '+' ∉ item.name.toList ∧ '+' ∉ item.value.toList := by
    obtain ⟨entry, present, rfl⟩ := List.mem_map.mp (reordered.symm.subset member)
    exact signs_of_weight_eq (each entry present).2
  have inert (item : Named String) (member : item ∈ pairs) : Inert item.name ∧ Inert item.value := by
    have present : entryOf item ∈ pairs.map entryOf := List.mem_map_of_mem member
    obtain ⟨equality, namePlus, valuePlus⟩ := signs item member
    obtain ⟨unmarked, full⟩ := each _ present
    obtain ⟨name, value⟩ := plain_of_weight_eq equality full
    have marks {c : Char} (inside : c ∈ (entryOf item).text) (plus : c ≠ '+') :
        c ∉ ['&', '#', '+', '\t', '\n', '\r'] := by
      have mark : c ≠ '&' := fun same => unmarked (same ▸ inside)
      have number : c ≠ '#' := fun same => unsigned (text_subset_joined present (same ▸ inside))
      have unbroken := isBreak_of_cleaned clean _ present c inside
      simp only [isBreak, Bool.or_eq_false_iff, decide_eq_false_iff_not] at unbroken
      simp [mark, number, plus, unbroken]
    refine ⟨⟨fun c inside => marks ?_ ?_, name⟩, ⟨fun c inside => marks ?_ ?_, value⟩⟩
    · exact List.mem_append_left _ inside
    · exact fun same => namePlus (same ▸ inside)
    · exact List.mem_append_right _ (List.mem_cons_of_mem _ inside)
    · exact fun same => valuePlus (same ▸ inside)
  refine ⟨fun item member => ⟨(inert item member).1, (signs item member).1⟩,
    fun item member => (inert item member).2, fun item member c ends => ?_⟩
  have inside := isMargin_of_cleaned clean (entryOf item) (by rw [List.getLast?_map, member]; rfl) c ends
  rw [isMargin, decide_eq_false_iff_not] at inside
  omega

/-- A url with encoded parameters is read, and its parameters are those of the text that is left when it is decoded.
They are the given ones just when these are read as they stand. -/
theorem encoded_parameters_arrive_if_literal {σ : Type} {pairs : List (Named String)} (distinct : Named.Distinct pairs)
    (state : σ) : ∃ connect : ConnectUrl,
      effect (ConnectUrl.parse Store.driverName (encodedUrl pairs)) state = (.ok connect, state) ∧
      connect.url.host? = some "h" ∧
      connect.parameters = ofQuery (visible (joined (pairs.map entryOf))) ∧
      (Arrive pairs connect.parameters ↔ Literal pairs) := by
  obtain ⟨url, read, host⟩ := effect_parse_encodedUrl pairs state
  refine ⟨_, read, host, rfl, ?_⟩
  rw [arrive_iff distinct]
  constructor
  · exact literal_of_perm
  · intro literal
    rw [literal.ofQuery_visible]

/-- A sign of equality, a blank, a percent sign and a letter beyond ASCII arrive. -/
theorem percent_value_arrives : ∃ connect : ConnectUrl,
    effect (ConnectUrl.parse Store.driverName "memory://h?key=a%3Db%20100%25&revision=%C3%A9") () = (.ok connect, ()) ∧
      Arrive [⟨"key", "a=b 100%"⟩, ⟨"revision", "é"⟩] connect.parameters := by
  have distinct : Named.Distinct [⟨"key", "a=b 100%"⟩, ⟨"revision", "é"⟩] := by simp [Named.Distinct, Named.names]
  have literal : Literal [⟨"key", "a=b 100%"⟩, ⟨"revision", "é"⟩] := by decide +kernel
  obtain ⟨connect, read, -, -, arrives⟩ := encoded_parameters_arrive_if_literal distinct ()
  have written : encodedUrl [⟨"key", "a=b 100%"⟩, ⟨"revision", "é"⟩] =
      "memory://h?key=a%3Db%20100%25&revision=%C3%A9" := by decide +kernel
  rw [written] at read
  exact ⟨connect, read, arrives.mpr literal⟩

/-- An encoded ampersand ends a value, and what is behind it is another parameter. -/
theorem ampersand_ends_value : Named.Distinct [(⟨"key", "k&mode=keyed"⟩ : Named String)] ∧
    encodedUrl [⟨"key", "k&mode=keyed"⟩] = "memory://h?key=k%26mode%3Dkeyed" ∧
    (effect (ConnectUrl.parse Store.driverName "memory://h?key=k%26mode%3Dkeyed") ()).1.toOption.map
      ConnectUrl.parameters = some [⟨"key", "k"⟩, ⟨"mode", "keyed"⟩] ∧
    ¬ Arrive [⟨"key", "k&mode=keyed"⟩] [⟨"key", "k"⟩, ⟨"mode", "keyed"⟩] := by
  refine ⟨by simp [Named.Distinct, Named.names], by decide +kernel, by decide +kernel, fun arrive => ?_⟩
  have taken := arrive (fun _ => none) _ (List.Perm.refl _)
  revert taken
  decide +kernel

end Polystore.Parameters
