import Polystore.Proofs.Url.Forms
import Polystore.Proofs.Url.Parameters
import Polystore.Store.Settings

/-!
Connection urls with encoded parameters. As the whole url is decoded first, it is read as if its parameters had not
been encoded: blanks at its end do not count, nor do tabs and line ends, and it has no query behind a number sign.
-/
namespace Polystore.Parameters

open Polystore.Action Text Text.Percent

/-! ### The query of a url -/

/-- What does not count at the end of a url. -/
def isMargin (c : Char) : Bool := c.toNat ≤ 32

/-- What does not count anywhere in a url. -/
def isBreak (c : Char) : Bool := c = '\t' || c = '\n' || c = '\r'

def withoutMargin (text : List Char) : List Char := (text.reverse.dropWhile isMargin).reverse

def withoutBreaks (text : List Char) : List Char := text.filter fun c => !isBreak c

/-- What is read of a query at the end of a url. -/
def visible (text : List Char) : List Char := (cut '#' (withoutBreaks (withoutMargin text))).1

theorem withoutMargin_append {last : Char} (inside : isMargin last = false) (front text : List Char) :
    withoutMargin (front ++ last :: text) = front ++ last :: withoutMargin text := by
  have reversed : (front ++ last :: text).reverse = text.reverse ++ last :: front.reverse := by simp
  rw [withoutMargin, reversed, List.dropWhile_append]
  split
  · rename_i nothing
    rw [List.isEmpty_iff] at nothing
    rw [List.dropWhile_cons_of_neg (by simp [inside]), withoutMargin, nothing]
    simp
  · rw [withoutMargin]
    simp

theorem readParts_host (query : List Char) : ∃ fragment,
    Url.readParts "memory".toList ("//h?".toList ++ query) =
      .ok ⟨"memory".toList, some ⟨[], ['h'], none⟩, [], some (Url.escapeQuery (cut '#' query).1), fragment⟩ := by
  have chars : "//h?".toList = ['/', '/', 'h', '?'] := rfl
  have through : cut '#' ('?' :: query) = ('?' :: (cut '#' query).1, (cut '#' query).2) := by
    rw [cut, if_neg (by decide)]
  have tail : Url.tailOf ('?' :: query) =
      (some (Url.escapeQuery (cut '#' query).1), (cut '#' query).2.map Url.escapeFragment) := by
    rw [Url.tailOf, through]
    rfl
  have authority : Url.authorityOf ['h'] ('?' :: query) = .ok (⟨[], ['h'], none⟩, []) := rfl
  refine ⟨(cut '#' query).2.map Url.escapeFragment, ?_⟩
  calc
    _ = (Url.authorityOf ['h'] ('?' :: query)).bind fun read =>
        .ok ⟨"memory".toList, some read.1, Url.pathOf (read.2 ++ []), (Url.tailOf ('?' :: query)).1,
          (Url.tailOf ('?' :: query)).2⟩ := by
      rw [chars]
      rfl
    _ = _ := by
      rw [authority, tail]
      rfl

theorem parse_of_scheme? {text : String} {scheme rest : List Char}
    (starts : Url.scheme? (withoutBreaks (withoutMargin (text.toList.dropWhile isMargin))) = some (scheme, rest)) :
    Url.parse text = Url.readParts scheme rest := by
  have margin : isMargin = fun c => decide (c.toNat ≤ 32) := rfl
  simp only [withoutBreaks, withoutMargin, isBreak, margin] at starts
  simp only [Url.parse, starts]

theorem parse_host (query : List Char) : Url.parse (String.ofList ("memory://h?".toList ++ query)) =
    Url.readParts "memory".toList ("//h?".toList ++ withoutBreaks (withoutMargin query)) := by
  have mark : "memory://h?".toList = "memory://h".toList ++ ['?'] := rfl
  have front : ("memory://h?".toList ++ query).dropWhile isMargin = "memory://h?".toList ++ query := rfl
  have trimmed : withoutMargin ("memory://h?".toList ++ query) = "memory://h?".toList ++ withoutMargin query := by
    rw [mark, List.append_assoc, List.append_assoc]
    exact withoutMargin_append (by decide) _ query
  have filtered : withoutBreaks ("memory://h?".toList ++ withoutMargin query) =
      "memory://h?".toList ++ withoutBreaks (withoutMargin query) := by
    rw [withoutBreaks, List.filter_append]
    rfl
  have scheme (rest : List Char) :
      Url.scheme? ("memory://h?".toList ++ rest) = some ("memory".toList, "//h?".toList ++ rest) := rfl
  refine parse_of_scheme? ?_
  rw [String.toList_ofList, front, trimmed, filtered, scheme]

/-- A connection url that is a url when it is decoded. -/
theorem effect_parse_of_decoded {σ : Type} {driver text decoded : String} {url : Url}
    (bytes : decode (bytesOf text) = bytesOf decoded) (starts : ConnectUrl.startsWith decoded (driver ++ "://") = true)
    (parsed : Url.parse decoded = .ok url) (state : σ) :
    effect (ConnectUrl.parse driver text) state = (.ok ⟨url, ofQuery (url.query.getD [])⟩, state) := by
  rw [ConnectUrl.parse, bytes, decodeBytes_bytesOf]
  simp only [starts, parsed, effect_bind, effect_pure, Bool.not_true, Bool.false_eq_true, if_false]

/-! ### Encoded parameters -/

/-- A name and a value as characters. -/
@[ext]
structure Entry where
  name : List Char
  value : List Char

def Entry.text (entry : Entry) : List Char := entry.name ++ '=' :: entry.value

/-- The text of entries, with a mark between any two. -/
def joined (entries : List Entry) : List Char := ['&'].intercalate (entries.map Entry.text)

def entryOf (item : Named String) : Entry := ⟨item.name.toList, item.value.toList⟩

/-- Parameters with their names and values encoded as components. -/
def encodeAll (pairs : List (Named String)) : List (Named String) :=
  pairs.map fun item => ⟨encodeComponent item.name, encodeComponent item.value⟩

/-- The connection url with encoded parameters. -/
def encodedUrl (pairs : List (Named String)) : String :=
  "memory://h?" ++ String.ofList (joined ((encodeAll pairs).map entryOf))

theorem joined_cons (entry : Entry) {rest : List Entry} (some : rest ≠ []) :
    joined (entry :: rest) = entry.text ++ '&' :: joined rest := by
  obtain ⟨next, more, rfl⟩ := List.exists_cons_of_ne_nil some
  simp [joined]

theorem joined_singleton (entry : Entry) : joined [entry] = entry.text := by simp [joined]

/-- Decoding makes a text of another one, whatever stands behind. -/
def DecodesTo (encoded text : List Char) : Prop := ∀ more,
  decode (encoded.flatMap String.utf8EncodeChar ++ more) = text.flatMap String.utf8EncodeChar ++ decode more

namespace DecodesTo

variable {encoded text : List Char}

theorem append {front plain : List Char} (first : DecodesTo front plain) (behind : DecodesTo encoded text) :
    DecodesTo (front ++ encoded) (plain ++ text) := by
  intro more
  rw [List.flatMap_append, List.append_assoc, first, behind, List.flatMap_append, List.append_assoc]

theorem cons {c : Char} (plain : c ≠ '%') (behind : DecodesTo encoded text) : DecodesTo (c :: encoded) (c :: text) := by
  intro more
  rw [List.flatMap_cons, List.append_assoc, decode_append (utf8EncodeChar_plain plain), behind, List.flatMap_cons,
    List.append_assoc]

theorem component (text : String) : DecodesTo (encodeComponent text).toList text.toList := by
  intro more
  rw [encodeComponent, toList_encode, decode_encoded (by decide)]

theorem entries (pairs : List (Named String)) :
    DecodesTo (joined ((encodeAll pairs).map entryOf)) (joined (pairs.map entryOf)) := by
  induction pairs with
  | nil => exact fun more => rfl
  | cons item rest ih =>
    have one : DecodesTo ((encodeComponent item.name).toList ++ '=' :: (encodeComponent item.value).toList)
        (item.name.toList ++ '=' :: item.value.toList) :=
      (component item.name).append (cons (by decide) (component item.value))
    cases rest with
    | nil => simpa [joined, encodeAll, Entry.text, entryOf] using one
    | cons next more =>
      have step := one.append (cons (by decide : '&' ≠ '%') ih)
      simpa [joined, encodeAll, Entry.text, entryOf] using step

end DecodesTo

theorem decode_encodedUrl (pairs : List (Named String)) : decode (bytesOf (encodedUrl pairs)) =
    bytesOf (String.ofList ("memory://h?".toList ++ joined (pairs.map entryOf))) := by
  have front : DecodesTo "memory://h?".toList "memory://h?".toList := by
    intro more
    refine decode_append ?_ more
    decide +kernel
  have whole := front.append (DecodesTo.entries pairs) []
  rw [List.append_nil] at whole
  have shown : (encodedUrl pairs).toList = "memory://h?".toList ++ joined ((encodeAll pairs).map entryOf) :=
    String.toList_append.trans (congrArg _ String.toList_ofList)
  rw [bytesOf, shown, whole, bytesOf_ofList]
  exact List.append_nil _

/-- A url with encoded parameters is one, and has the parameters that it would have if they had not been encoded. -/
theorem effect_parse_encodedUrl {σ : Type} (pairs : List (Named String)) (state : σ) : ∃ url : Url,
    effect (ConnectUrl.parse Store.driverName (encodedUrl pairs)) state =
      (.ok ⟨url, ofQuery (visible (joined (pairs.map entryOf)))⟩, state) ∧ url.host? = some "h" := by
  obtain ⟨fragment, parts⟩ := readParts_host (withoutBreaks (withoutMargin (joined (pairs.map entryOf))))
  have parsed := (parse_host (joined (pairs.map entryOf))).trans parts
  have starts (rest : List Char) :
      ConnectUrl.startsWith (String.ofList ("memory://h?".toList ++ rest)) (Store.driverName ++ "://") = true := by
    rw [ConnectUrl.startsWith, String.toList_ofList]
    rfl
  have reads := effect_parse_of_decoded (decode_encodedUrl pairs) (starts _) parsed state
  rw [Option.getD_some, ofQuery_escapeQuery] at reads
  exact ⟨_, reads, rfl⟩

/-! ### What is visible of entries -/

/-- An entry without tabs and line ends. -/
def Entry.withoutBreaks (entry : Entry) : Entry :=
  ⟨Parameters.withoutBreaks entry.name, Parameters.withoutBreaks entry.value⟩

/-- Entries of which the last ends where its value ends. -/
def withoutLastMargin : List Entry → List Entry
  | [] => []
  | [entry] => [⟨entry.name, withoutMargin entry.value⟩]
  | entry :: next :: rest => entry :: withoutLastMargin (next :: rest)

/-- Entries without what does not count in a url. -/
def cleaned (entries : List Entry) : List Entry := (withoutLastMargin entries).map Entry.withoutBreaks

theorem withoutLastMargin_ne_nil (entry : Entry) (rest : List Entry) : withoutLastMargin (entry :: rest) ≠ [] := by
  cases rest <;> simp [withoutLastMargin]

theorem withoutMargin_joined (entries : List Entry) :
    withoutMargin (joined entries) = joined (withoutLastMargin entries) := by
  induction entries with
  | nil => rfl
  | cons entry rest ih =>
    cases rest with
    | nil =>
      rw [withoutLastMargin, joined_singleton, joined_singleton]
      exact withoutMargin_append (by decide) _ _
    | cons next more =>
      rw [withoutLastMargin, joined_cons entry (List.cons_ne_nil next more),
        joined_cons entry (withoutLastMargin_ne_nil next more), withoutMargin_append (by decide), ih]

theorem withoutBreaks_joined (entries : List Entry) :
    withoutBreaks (joined entries) = joined (entries.map Entry.withoutBreaks) := by
  have one (entry : Entry) : withoutBreaks entry.text = entry.withoutBreaks.text := by
    rw [withoutBreaks, Entry.text, List.filter_append]
    rfl
  induction entries with
  | nil => rfl
  | cons entry rest ih =>
    cases rest with
    | nil => rw [List.map_singleton, joined_singleton, joined_singleton, one]
    | cons next more =>
      have through : withoutBreaks (entry.text ++ '&' :: joined (next :: more)) =
          withoutBreaks entry.text ++ '&' :: withoutBreaks (joined (next :: more)) := List.filter_append ..
      rw [joined_cons entry (List.cons_ne_nil next more), through, one, ih]
      exact (joined_cons entry.withoutBreaks
        (List.cons_ne_nil next.withoutBreaks (more.map Entry.withoutBreaks))).symm

theorem visible_joined (entries : List Entry) : visible (joined entries) = (cut '#' (joined (cleaned entries))).1 := by
  rw [visible, withoutMargin_joined, withoutBreaks_joined, cleaned]

theorem ofQuery_append_mark (before behind : List Char) :
    ofQuery (before ++ '&' :: behind) = ofQuery before ++ ofQuery behind := by
  rw [ofQuery, split_append_mark, List.filter_append, List.map_append]
  rfl

theorem ofQuery_joined (entries : List Entry) :
    ofQuery (joined entries) = entries.flatMap fun entry => ofQuery entry.text := by
  induction entries with
  | nil => rfl
  | cons entry rest ih =>
    cases rest with
    | nil => rw [joined_singleton, List.flatMap_singleton]
    | cons next more =>
      rw [joined_cons entry (List.cons_ne_nil next more), ofQuery_append_mark, ih]
      rfl

theorem ofQuery_of_not_mem {text : List Char} (filled : text ≠ []) (plain : '&' ∉ text) :
    ofQuery text = [formPair text] := by
  rw [ofQuery, split_of_not_mem plain, List.filter_cons_of_pos (by simpa using filled)]
  rfl

theorem Entry.text_ne_nil (entry : Entry) : entry.text ≠ [] := by simp [Entry.text]

theorem formPair_text {entry : Entry} (plain : '=' ∉ entry.name) :
    formPair entry.text = ⟨formText entry.name, formText entry.value⟩ := by
  rw [formPair_eq, Entry.text, cut_append_mark plain]
  rfl

/-- Entries that a url leaves nothing out of, and no mark divides, are read one by one. -/
theorem ofQuery_visible_of_unmarked {entries : List Entry} (clean : cleaned entries = entries)
    (unsigned : '#' ∉ joined entries) (unmarked : ∀ entry ∈ entries, '&' ∉ entry.text) :
    ofQuery (visible (joined entries)) = entries.map fun entry => formPair entry.text := by
  have one (entry : Entry) (member : entry ∈ entries) : ofQuery entry.text = [formPair entry.text] :=
    ofQuery_of_not_mem entry.text_ne_nil (unmarked entry member)
  rw [visible_joined, clean, cut_of_not_mem unsigned, ofQuery_joined, List.flatMap_def, List.map_congr_left one,
    ← List.flatMap_def]
  exact (List.map_eq_flatMap ..).symm

/-- Entries that stay apart, and of which a url leaves nothing out. -/
structure Separate (entries : List Entry) : Prop where
  marks : ∀ entry ∈ entries, ∀ c ∈ entry.text, c ≠ '&' ∧ c ≠ '#' ∧ isBreak c = false
  names : ∀ entry ∈ entries, '=' ∉ entry.name
  last : ∀ entry ∈ entries.getLast?, ∀ c ∈ entry.value.getLast?, isMargin c = false

/-- Parameters without the marks of urls stay apart. -/
theorem separate_map_entryOf {pairs : List (Named String)}
    (marks : ∀ item ∈ pairs, ∀ c, c ∈ item.name.toList ∨ c ∈ item.value.toList →
      c ≠ '&' ∧ c ≠ '#' ∧ isBreak c = false)
    (names : ∀ item ∈ pairs, '=' ∉ item.name.toList)
    (last : ∀ item ∈ pairs.getLast?, ∀ c ∈ item.value.toList.getLast?, isMargin c = false) :
    Separate (pairs.map entryOf) where
  marks := by
    intro entry member c inside
    obtain ⟨item, present, rfl⟩ := List.mem_map.mp member
    rcases List.mem_append.mp inside with name | rest
    · exact marks item present c (.inl name)
    rcases List.mem_cons.mp rest with rfl | value
    · decide
    · exact marks item present c (.inr value)
  names := by
    intro entry member
    obtain ⟨item, present, rfl⟩ := List.mem_map.mp member
    exact names item present
  last := by
    intro entry member c ends
    rw [List.getLast?_map] at member
    obtain ⟨item, present, rfl⟩ := Option.map_eq_some_iff.mp member
    exact last item present c ends

theorem withoutMargin_eq_self {text : List Char} (last : ∀ c ∈ text.getLast?, isMargin c = false) :
    withoutMargin text = text := by
  rcases List.eq_nil_or_concat text with rfl | ⟨front, c, rfl⟩
  · rfl
  · have inside := last c (by simp)
    rw [List.concat_eq_append]
    exact withoutMargin_append inside front []

theorem withoutLastMargin_eq_self {entries : List Entry}
    (last : ∀ entry ∈ entries.getLast?, ∀ c ∈ entry.value.getLast?, isMargin c = false) :
    withoutLastMargin entries = entries := by
  induction entries with
  | nil => rfl
  | cons entry rest ih =>
    cases rest with
    | nil => rw [withoutLastMargin, withoutMargin_eq_self (last entry rfl)]
    | cons next more =>
      rw [withoutLastMargin, ih fun other member => last other (by rwa [List.getLast?_cons_cons])]

theorem Separate.cleaned_eq {entries : List Entry} (separate : Separate entries) : cleaned entries = entries := by
  rw [cleaned, withoutLastMargin_eq_self separate.last]
  refine (List.map_congr_left fun entry member => ?_).trans (List.map_id entries)
  have unbroken {text : List Char} (within : text ⊆ entry.text) : withoutBreaks text = text := by
    refine List.filter_eq_self.mpr fun c inside => ?_
    rw [(separate.marks entry member c (within inside)).2.2]
    rfl
  exact Entry.ext (unbroken (List.subset_append_left ..))
    (unbroken (List.Subset.trans (List.subset_cons_self ..) (List.subset_append_right ..)))

theorem mem_joined {entries : List Entry} {c : Char} (member : c ∈ joined entries) :
    c = '&' ∨ ∃ entry ∈ entries, c ∈ entry.text := by
  induction entries with
  | nil => cases member
  | cons entry rest ih =>
    cases rest with
    | nil =>
      rw [joined_singleton] at member
      exact .inr ⟨entry, List.mem_cons_self .., member⟩
    | cons next more =>
      rw [joined_cons entry (List.cons_ne_nil next more)] at member
      rcases List.mem_append.mp member with here | later
      · exact .inr ⟨entry, List.mem_cons_self .., here⟩
      rcases List.mem_cons.mp later with mark | later
      · exact .inl mark
      · exact (ih later).imp_right fun ⟨other, present, inside⟩ => ⟨other, List.mem_cons_of_mem _ present, inside⟩

theorem text_subset_joined {entries : List Entry} {entry : Entry} (member : entry ∈ entries) :
    entry.text ⊆ joined entries := by
  induction entries with
  | nil => cases member
  | cons first rest ih =>
    cases rest with
    | nil =>
      rw [List.mem_singleton.mp member, joined_singleton]
      exact List.Subset.refl _
    | cons next more =>
      rw [joined_cons first (List.cons_ne_nil next more)]
      rcases List.mem_cons.mp member with rfl | later
      · exact List.subset_append_left ..
      · exact List.Subset.trans (List.Subset.trans (ih later) (List.subset_cons_self ..)) (List.subset_append_right ..)

/-- Entries that stay apart are read as their names and values are. -/
theorem Separate.ofQuery_visible {entries : List Entry} (separate : Separate entries) :
    ofQuery (visible (joined entries)) = entries.map fun entry => ⟨formText entry.name, formText entry.value⟩ := by
  have unsigned : '#' ∉ joined entries := by
    intro sign
    rcases mem_joined sign with mark | ⟨entry, member, inside⟩
    · cases mark
    · exact (separate.marks entry member '#' inside).2.1 rfl
  have unmarked (entry : Entry) (member : entry ∈ entries) : '&' ∉ entry.text :=
    fun mark => (separate.marks entry member '&' mark).1 rfl
  rw [ofQuery_visible_of_unmarked separate.cleaned_eq unsigned unmarked]
  exact List.map_congr_left fun entry member => formPair_text (separate.names entry member)

/-! ### Encoding twice -/

theorem isMargin_of_isUnreserved {c : Char} (unreserved : isUnreserved c = true) : isMargin c = false := by
  have each : ∀ c : Char, c.toNat < 33 → isUnreserved c = false := forall_char_lt (by decide +kernel)
  rw [isMargin, decide_eq_false_iff_not]
  intro small
  rw [each c (by omega)] at unreserved
  cases unreserved

/-- What an encoded text is made of. -/
theorem mem_encodeComponent_plain {text : String} {c : Char} (member : c ∈ (encodeComponent text).toList) :
    c ∉ ['&', '=', '#', '+', '\t', '\n', '\r'] ∧ isMargin c = false := by
  rcases mem_encodeComponent member with rfl | unreserved
  · decide
  · refine ⟨fun mark => ?_, isMargin_of_isUnreserved unreserved⟩
    have each : ['&', '=', '#', '+', '\t', '\n', '\r'].all (fun c => !isUnreserved c) = true := by decide
    have reserved := List.all_eq_true.mp each c mark
    rw [unreserved] at reserved
    cases reserved

theorem formText_encodeComponent (text : String) : formText (encodeComponent text).toList = text := by
  have untouched : (encodeComponent text).toList.map blanked = (encodeComponent text).toList :=
    map_blanked_of_not_mem fun plus => (mem_encodeComponent_plain plus).1 (by decide)
  have bytes := DecodesTo.component text []
  rw [List.append_nil] at bytes
  refine String.toList_injective ?_
  rw [toList_formText, untouched, unescaped, bytes]
  exact (congrArg decodeLenientChars (List.append_nil _)).trans (decodeLenientChars_encoded _)

theorem separate_encodeAll (pairs : List (Named String)) : Separate ((encodeAll pairs).map entryOf) := by
  have shape (encoded : Named String) (among : encoded ∈ encodeAll pairs) : ∃ item ∈ pairs,
      encoded = ⟨encodeComponent item.name, encodeComponent item.value⟩ := by
    obtain ⟨item, present, same⟩ := List.mem_map.mp among
    exact ⟨item, present, same.symm⟩
  refine separate_map_entryOf (fun encoded among c inside => ?_) (fun encoded among sign => ?_)
    (fun encoded last c ends => ?_)
  · obtain ⟨item, -, rfl⟩ := shape encoded among
    have outside : c ∉ ['&', '=', '#', '+', '\t', '\n', '\r'] :=
      inside.elim (fun name => (mem_encodeComponent_plain name).1) fun value => (mem_encodeComponent_plain value).1
    simp only [List.mem_cons, List.not_mem_nil, or_false, not_or] at outside
    simp [isBreak, outside]
  · obtain ⟨item, -, rfl⟩ := shape encoded among
    exact (mem_encodeComponent_plain sign).1 (by decide)
  · obtain ⟨item, -, rfl⟩ := shape encoded (List.mem_of_getLast? (Option.mem_def.mp last))
    exact (mem_encodeComponent_plain (List.mem_of_getLast? (Option.mem_def.mp ends))).2

/-- Parameters that are encoded twice arrive, whatever they are; so there is a url for any parameters. -/
theorem twice_encoded_parameters_arrive {σ : Type} (pairs : List (Named String)) (state : σ) : ∃ connect : ConnectUrl,
    effect (ConnectUrl.parse Store.driverName (encodedUrl (encodeAll pairs))) state = (.ok connect, state) ∧
      connect.url.host? = some "h" ∧ connect.parameters = pairs := by
  obtain ⟨url, read, host⟩ := effect_parse_encodedUrl (encodeAll pairs) state
  refine ⟨_, read, host, (separate_encodeAll pairs).ofQuery_visible.trans ?_⟩
  rw [encodeAll, List.map_map, List.map_map]
  refine (List.map_congr_left fun item _ => ?_).trans (List.map_id pairs)
  have name := formText_encodeComponent item.name
  have value := formText_encodeComponent item.value
  rw [Function.comp_apply, Function.comp_apply, entryOf, name, value]
  rfl

end Polystore.Parameters
