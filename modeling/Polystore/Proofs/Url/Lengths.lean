import Polystore.Proofs.Url.Encoded

/-!
Lengths of parameters. What is decoded is no longer than its text, and every mark of a query takes a place that no
parameter gets. So parameters are as long as the text that a url was made from only if nothing was left out of it, every
part was read by itself, and nothing was decoded.
-/
namespace Polystore.Parameters

open Text Text.Percent

/-! ### How much text parameters come from -/

/-- The length of a name and a value with a sign of equality between them. -/
def weight (item : Named String) : Nat := item.name.toList.length + item.value.toList.length + 1

def total (items : List (Named String)) : Nat := (items.map weight).sum

/-- The length of entries without the marks between them. -/
def span (entries : List Entry) : Nat := (entries.map fun entry => entry.text.length).sum

theorem total_cons (item : Named String) (rest : List (Named String)) :
    total (item :: rest) = weight item + total rest := by
  rw [total, List.map_cons, List.sum_cons, total]

theorem total_append (before behind : List (Named String)) :
    total (before ++ behind) = total before + total behind := by
  rw [total, List.map_append, List.sum_append, total, total]

theorem total_map_entryOf (pairs : List (Named String)) : span (pairs.map entryOf) = total pairs := by
  rw [span, total, List.map_map]
  refine congrArg List.sum (List.map_congr_left fun item _ => ?_)
  simp [Entry.text, entryOf, weight, Nat.add_assoc]

theorem exists_entry {part : List Char} (sign : '=' ∈ part) :
    ∃ entry : Entry, '=' ∉ entry.name ∧ part = entry.text := by
  obtain ⟨name, value, plain, shape⟩ := exists_of_mem sign
  exact ⟨⟨name, value⟩, plain, shape⟩

section Parts

variable {entry : Entry} (plain : '=' ∉ entry.name)

include plain

theorem weight_formPair_text_le : weight (formPair entry.text) ≤ entry.text.length := by
  have name := length_formText_le entry.name
  have value := length_formText_le entry.value
  rw [formPair_text plain, weight, Entry.text, List.length_append, List.length_cons]
  simp only
  omega

/-- An entry that is read at full length is read as it is, but for the blanks. -/
theorem plain_of_weight_eq (full : weight (formPair entry.text) = entry.text.length) :
    hasEscape entry.name = false ∧ hasEscape entry.value = false := by
  have name := length_formText_le entry.name
  have value := length_formText_le entry.value
  rw [formPair_text plain, weight, Entry.text, List.length_append, List.length_cons] at full
  simp only at full
  refine ⟨Bool.eq_false_iff.mpr fun escape => ?_, Bool.eq_false_iff.mpr fun escape => ?_⟩
  · have shorter := length_formText_lt escape
    omega
  · have shorter := length_formText_lt escape
    omega

end Parts

theorem weight_formPair_le (part : List Char) : weight (formPair part) ≤ part.length + 1 := by
  by_cases sign : '=' ∈ part
  · obtain ⟨entry, plain, rfl⟩ := exists_entry sign
    exact Nat.le_succ_of_le (weight_formPair_text_le plain)
  · have nothing : formPair part = ⟨formText part, formText []⟩ := by
      rw [formPair_eq, cut_of_not_mem sign]
      rfl
    have name := length_formText_le part
    have value := length_formText_le []
    rw [nothing, weight]
    exact Nat.succ_le_succ (Nat.add_le_add name value)

/-- The parameters of the parts of a query. -/
def itemsOf (parts : List (List Char)) : List (Named String) := (parts.filter fun part => !part.isEmpty).map formPair

theorem ofQuery_eq_itemsOf (text : List Char) : ofQuery text = itemsOf (split '&' text) := rfl

theorem length_itemsOf_le (parts : List (List Char)) : (itemsOf parts).length ≤ parts.length := by
  rw [itemsOf, List.length_map]
  exact List.length_filter_le ..

theorem itemsOf_cons (part : List Char) (rest : List (List Char)) :
    itemsOf (part :: rest) = if part = [] then itemsOf rest else formPair part :: itemsOf rest := by
  cases part <;> rfl

theorem total_itemsOf_le (parts : List (List Char)) :
    total (itemsOf parts) ≤ (parts.map List.length).sum + (itemsOf parts).length := by
  induction parts with
  | nil => exact Nat.le_refl 0
  | cons part rest ih =>
    have here := weight_formPair_le part
    rw [itemsOf_cons, List.map_cons, List.sum_cons]
    split
    · omega
    · rw [total_cons, List.length_cons]
      omega

theorem total_itemsOf_lt {parts : List (List Char)} (sign : ∃ part ∈ parts, '=' ∈ part) :
    total (itemsOf parts) < (parts.map List.length).sum + (itemsOf parts).length := by
  induction parts with
  | nil =>
    obtain ⟨part, member, -⟩ := sign
    cases member
  | cons part rest ih =>
    rw [itemsOf_cons, List.map_cons, List.sum_cons]
    obtain ⟨other, member, inside⟩ := sign
    rcases List.mem_cons.mp member with rfl | later
    · obtain ⟨entry, plain, rfl⟩ := exists_entry inside
      have here := weight_formPair_text_le plain
      have behind := total_itemsOf_le rest
      rw [if_neg entry.text_ne_nil, total_cons, List.length_cons]
      omega
    · have behind := ih ⟨other, later, inside⟩
      have here := weight_formPair_le part
      split
      · omega
      · rw [total_cons, List.length_cons]
        omega

theorem length_itemsOf_pos {parts : List (List Char)} (sign : ∃ part ∈ parts, '=' ∈ part) :
    0 < (itemsOf parts).length := by
  obtain ⟨part, member, inside⟩ := sign
  rw [itemsOf, List.length_map]
  refine List.length_pos_of_mem (List.mem_filter.mpr ⟨member, ?_⟩)
  cases part with
  | nil => cases inside
  | cons c rest => rfl

section Queries

variable (text : List Char)

theorem total_ofQuery_le : total (ofQuery text) ≤ text.length + 1 := by
  have parts := total_itemsOf_le (split '&' text)
  have cuts := length_split '&' text
  have fewer := length_itemsOf_le (split '&' text)
  rw [ofQuery_eq_itemsOf]
  omega

variable {text} (sign : '=' ∈ text)

include sign

/-- Each mark in a text takes a place that no parameter gets. -/
theorem total_ofQuery_of_mem :
    total (ofQuery text) + (split '&' text).length ≤ text.length + (ofQuery text).length := by
  have parts := total_itemsOf_lt (exists_mem_split (by decide : '=' ≠ '&') sign)
  have cuts := length_split '&' text
  rw [ofQuery_eq_itemsOf]
  omega

theorem length_ofQuery_pos : 0 < (ofQuery text).length :=
  length_itemsOf_pos (exists_mem_split (by decide : '=' ≠ '&') sign)

theorem total_ofQuery_le_of_mem : total (ofQuery text) ≤ text.length := by
  have marks := total_ofQuery_of_mem sign
  have fewer := length_itemsOf_le (split '&' text)
  rw [← ofQuery_eq_itemsOf] at fewer
  omega

end Queries

theorem Entry.mem_text (entry : Entry) : '=' ∈ entry.text := by simp [Entry.text]

theorem span_cons (entry : Entry) (rest : List Entry) : span (entry :: rest) = entry.text.length + span rest := by
  rw [span, List.map_cons, List.sum_cons, span]

/-- Entries have no more parameters than their length has room for. -/
theorem total_flatMap_le (entries : List Entry) :
    total (entries.flatMap fun entry => ofQuery entry.text) ≤ span entries := by
  induction entries with
  | nil => exact Nat.le_refl 0
  | cons entry rest ih =>
    rw [List.flatMap_cons, total_append, span_cons]
    exact Nat.add_le_add (total_ofQuery_le_of_mem entry.mem_text) ih

theorem length_le_flatMap (entries : List Entry) :
    entries.length ≤ (entries.flatMap fun entry => ofQuery entry.text).length := by
  induction entries with
  | nil => exact Nat.le_refl 0
  | cons entry rest ih =>
    have here := length_ofQuery_pos entry.mem_text
    rw [List.flatMap_cons, List.length_append, List.length_cons]
    omega

/-- Entries that are read at full length, as many parameters as there are entries, are read one by one. -/
theorem one_of_full {entries : List Entry}
    (full : span entries ≤ total (entries.flatMap fun entry => ofQuery entry.text))
    (few : (entries.flatMap fun entry => ofQuery entry.text).length ≤ entries.length) :
    ∀ entry ∈ entries, '&' ∉ entry.text ∧ weight (formPair entry.text) = entry.text.length := by
  induction entries with
  | nil => simp
  | cons entry rest ih =>
    rw [List.flatMap_cons, total_append, span_cons] at full
    rw [List.flatMap_cons, List.length_append, List.length_cons] at few
    have here := total_ofQuery_of_mem entry.mem_text
    have some := length_ofQuery_pos entry.mem_text
    have most := total_ofQuery_le_of_mem entry.mem_text
    have behind := total_flatMap_le rest
    have more := length_le_flatMap rest
    refine List.forall_mem_cons.mpr ⟨?_, ih (by omega) (by omega)⟩
    have parts := List.length_pos_iff.mpr (split_ne_nil '&' entry.text)
    have unmarked : '&' ∉ entry.text := not_mem_of_length_split (by omega)
    refine ⟨unmarked, ?_⟩
    rw [ofQuery_of_not_mem entry.text_ne_nil unmarked] at full most
    have one : total [formPair entry.text] = weight (formPair entry.text) := rfl
    omega

/-- A number sign costs more than it leaves. -/
theorem total_ofQuery_cut_lt {entries : List Entry} (sign : '#' ∈ joined entries) :
    total (ofQuery (cut '#' (joined entries)).1) < span entries := by
  have single (entry : Entry) (inside : '#' ∈ entry.text) :
      total (ofQuery (cut '#' entry.text).1) < entry.text.length := by
    obtain ⟨before, behind, plain, shape⟩ := exists_of_mem inside
    rw [shape, cut_append_mark plain, List.length_append, List.length_cons]
    dsimp only
    by_cases equality : '=' ∈ before
    · have most := total_ofQuery_le_of_mem equality
      omega
    · have most := total_ofQuery_le before
      have later : '=' ∈ behind := by
        have member := entry.mem_text
        rw [shape] at member
        simpa [equality] using member
      have room := List.length_pos_of_mem later
      omega
  induction entries with
  | nil => cases sign
  | cons entry rest ih =>
    cases rest with
    | nil =>
      rw [joined_singleton] at sign ⊢
      rw [span_cons]
      exact Nat.lt_add_right _ (single entry sign)
    | cons next more =>
      rw [joined_cons entry (List.cons_ne_nil next more)] at sign ⊢
      rw [span_cons]
      by_cases inside : '#' ∈ entry.text
      · rw [cut_append_of_mem inside]
        exact Nat.lt_add_right _ (single entry inside)
      · have later : '#' ∈ joined (next :: more) := by simpa [inside] using sign
        have through : cut '#' ('&' :: joined (next :: more)) =
            ('&' :: (cut '#' (joined (next :: more))).1, (cut '#' (joined (next :: more))).2) := by
          rw [cut, if_neg (by decide)]
        rw [cut_append inside, through, ofQuery_append_mark, total_append]
        exact Nat.add_lt_add_of_le_of_lt (total_ofQuery_le_of_mem entry.mem_text) (ih later)

/-! ### What a url leaves out -/

/-- An entry with a name and a value that are pieces of those of another one. -/
def Within (less entry : Entry) : Prop := less.name.Sublist entry.name ∧ less.value.Sublist entry.value

theorem length_text (entry : Entry) : entry.text.length = entry.name.length + entry.value.length + 1 := by
  rw [Entry.text, List.length_append, List.length_cons, Nat.add_assoc]

theorem Within.eq_of_length {less entry : Entry} (within : Within less entry)
    (full : entry.text.length ≤ less.text.length) : less = entry := by
  have name := within.1.length_le
  have value := within.2.length_le
  rw [length_text, length_text] at full
  exact Entry.ext (within.1.eq_of_length_le (by omega)) (within.2.eq_of_length_le (by omega))

theorem span_le_of_within {less entries : List Entry} (within : List.Forall₂ Within less entries) :
    span less ≤ span entries := by
  induction within with
  | nil => exact Nat.le_refl 0
  | cons here _ ih =>
    have name := here.1.length_le
    have value := here.2.length_le
    rw [span_cons, span_cons, length_text, length_text]
    omega

theorem eq_of_span_le {less entries : List Entry} (within : List.Forall₂ Within less entries)
    (full : span entries ≤ span less) : less = entries := by
  induction within with
  | nil => rfl
  | @cons one other rest others here behind ih =>
    have name := here.1.length_le
    have value := here.2.length_le
    have further := span_le_of_within behind
    rw [span_cons, span_cons] at full
    have lengths := length_text one
    have otherLengths := length_text other
    rw [here.eq_of_length (by omega), ih (by omega)]

theorem withoutMargin_sublist (text : List Char) : (withoutMargin text).Sublist text := by
  have reversed := (List.dropWhile_suffix isMargin (l := text.reverse)).sublist.reverse
  rwa [List.reverse_reverse] at reversed

theorem withoutLastMargin_within (entries : List Entry) : List.Forall₂ Within (withoutLastMargin entries) entries := by
  have self (entry : Entry) : Within entry entry := ⟨List.Sublist.refl _, List.Sublist.refl _⟩
  induction entries with
  | nil => exact .nil
  | cons entry rest ih =>
    cases rest with
    | nil => exact .cons ⟨List.Sublist.refl _, withoutMargin_sublist entry.value⟩ .nil
    | cons next more => exact .cons (self entry) ih

theorem cleaned_within (entries : List Entry) : List.Forall₂ Within (cleaned entries) entries := by
  refine List.forall₂_map_left_iff.mpr ((withoutLastMargin_within entries).imp fun less entry within => ?_)
  exact ⟨(List.filter_sublist ..).trans within.1, (List.filter_sublist ..).trans within.2⟩

theorem isBreak_of_cleaned {entries : List Entry} (clean : cleaned entries = entries) :
    ∀ entry ∈ entries, ∀ c ∈ entry.text, isBreak c = false := by
  intro entry member c inside
  rw [← clean] at member
  obtain ⟨other, -, rfl⟩ := List.mem_map.mp member
  have kept {text : List Char} (present : c ∈ withoutBreaks text) : isBreak c = false := by
    simpa using (List.mem_filter.mp present).2
  rcases List.mem_append.mp inside with name | rest
  · exact kept name
  rcases List.mem_cons.mp rest with rfl | value
  · decide
  · exact kept value

theorem isMargin_of_withoutMargin {text : List Char} (whole : withoutMargin text = text) :
    ∀ c ∈ text.getLast?, isMargin c = false := by
  intro c last
  rw [← whole, withoutMargin, List.getLast?_reverse] at last
  have first := List.head?_dropWhile_not isMargin text.reverse
  rw [last] at first
  simpa using first

theorem getLast?_withoutLastMargin (entries : List Entry) : (withoutLastMargin entries).getLast? =
    entries.getLast?.map fun entry => ⟨entry.name, withoutMargin entry.value⟩ := by
  induction entries with
  | nil => rfl
  | cons entry rest ih =>
    cases rest with
    | nil => rfl
    | cons next more =>
      obtain ⟨first, others, shape⟩ := List.exists_cons_of_ne_nil (withoutLastMargin_ne_nil next more)
      rw [withoutLastMargin, List.getLast?_cons_cons, ← ih, shape, List.getLast?_cons_cons]

theorem isMargin_of_cleaned {entries : List Entry} (clean : cleaned entries = entries) :
    ∀ entry ∈ entries.getLast?, ∀ c ∈ entry.value.getLast?, isMargin c = false := by
  intro entry last
  have same : Entry.withoutBreaks ⟨entry.name, withoutMargin entry.value⟩ = entry := by
    have shown := congrArg List.getLast? clean
    rw [cleaned, List.getLast?_map, getLast?_withoutLastMargin, last] at shown
    exact Option.some.inj shown
  refine isMargin_of_withoutMargin ((withoutMargin_sublist entry.value).eq_of_length_le ?_)
  have unbroken : withoutBreaks (withoutMargin entry.value) = entry.value := congrArg Entry.value same
  exact Nat.le_trans (Nat.le_of_eq (congrArg List.length unbroken.symm)) (List.length_filter_le ..)

/-- Where a url has the parameters that it was made from, it leaves nothing out, and each is read at full length. -/
theorem full_of_perm {pairs : List (Named String)}
    (reordered : (ofQuery (visible (joined (pairs.map entryOf)))).Perm pairs) :
    cleaned (pairs.map entryOf) = pairs.map entryOf ∧ '#' ∉ joined (pairs.map entryOf) ∧
      ∀ entry ∈ pairs.map entryOf, '&' ∉ entry.text ∧ weight (formPair entry.text) = entry.text.length := by
  have totals : total (ofQuery (visible (joined (pairs.map entryOf)))) = span (pairs.map entryOf) := by
    rw [total_map_entryOf]
    exact (reordered.map weight).sum_nat
  have lengths := reordered.length_eq
  have most := span_le_of_within (cleaned_within (pairs.map entryOf))
  rw [visible_joined] at totals lengths
  have unsigned : '#' ∉ joined (cleaned (pairs.map entryOf)) := by
    intro sign
    have fewer := total_ofQuery_cut_lt sign
    omega
  rw [cut_of_not_mem unsigned, ofQuery_joined] at totals lengths
  have room := total_flatMap_le (cleaned (pairs.map entryOf))
  have clean := eq_of_span_le (cleaned_within (pairs.map entryOf)) (by omega)
  rw [clean] at totals lengths unsigned
  have few := Nat.le_of_eq (lengths.trans (List.length_map entryOf).symm)
  exact ⟨clean, unsigned, one_of_full (Nat.le_of_eq totals.symm) few⟩

end Polystore.Parameters
