import Polystore.Proofs.Converter.Maps
import Polystore.Proofs.Predicate.KeyConditions
import Polystore.Proofs.Store.Returned

/-!
Rows found by what they hold. A read that looks for a value of a field compares the opaque form of what the row holds
with that of what the value is written as. Fields of the body are written before they are stored, so that both are one
value. The key is stored as it was given, and a lookup by key goes by its text.
-/
namespace Polystore

/-- A query for all rows in which a field has a value, by equality or as the only value of a list. -/
structure Query.LooksFor (query : Query) (collection name : String) (value : Value) : Prop where
  collection : query.collection = collection
  skip : query.skip = none
  limit : query.limit = none
  condition : query.condition = some (.leaf .equals ⟨name, value⟩) ∨
    ∃ hint, query.condition = some (.leaf .isIn ⟨name, .list [value] hint⟩)

namespace Condition

theorem formed_equals (field : Field) : ¬ (leaf .equals field).Malformed := by
  intro malformed
  cases malformed <;> contradiction

theorem formed_isIn (name : String) (items : List Value) (hint : Value) :
    ¬ (leaf .isIn ⟨name, .list items hint⟩).Malformed := by
  intro malformed
  cases malformed <;> contradiction

end Condition

namespace Store.Service

open Polystore.Action

/-- Where rows are addressed by any condition, a row is picked if what it holds is equal to what the value is written
as. -/
theorem predicateFor_looking_document {service : Service} (document : service.settings.addressing = .document)
    {query : Query} {collection name : String} {value : Value} (looks : query.LooksFor collection name value)
    {native : Native} (written : service.converter.nativeOf value = .ok native) :
    ∃ predicate, service.predicateFor query.condition = .ok predicate ∧
      ∀ row actual, Named.find? (service.view row) name = some actual →
        service.picks predicate row = actual.opaqueValue.equals native.opaqueValue := by
  have builder : service.builder =
      Predicate.lift (Filter.builder driverName service.converter .full) .filter Predicate.filters := by
    rw [Service.builder, Predicate.builder, document]
  rcases looks.condition with single | ⟨hint, listed⟩
  · refine ⟨some (.filter (.leaf .equals name native.opaqueValue)), ?_, ?_⟩
    · rw [single, predicateFor, builder]
      refine PredicateBuilder.predicateFor_of_leaf (Condition.formed_equals _) rfl ?_
      simp [Predicate.lift, Filter.builder, Filter.ofLeaf, Operator.isCombinator, written, Except.map]
    · intro row actual found
      simp [picks, Filter.holds, found, Filter.compares]
  · have alone : service.converter.nativeOf (.list [value] hint) = .ok (.list [native]) := by
      simp [Converter.nativeOf, Converter.nativeOfItems, written, Except.map]
    refine ⟨some (.filter (.leaf .isIn name (.list [native.opaqueValue] .null))), ?_, ?_⟩
    · rw [listed, predicateFor, builder]
      refine PredicateBuilder.predicateFor_of_leaf (Condition.formed_isIn _ _ _) rfl ?_
      simp [Predicate.lift, Filter.builder, Filter.ofLeaf, Operator.isCombinator, alone, Except.map,
        Native.opaqueValue, Native.opaqueItems]
    · intro row actual found
      simp [picks, Filter.holds, found, Filter.compares, Value.asList?]

/-- Where rows are addressed by key, a row is picked by the text of its key. -/
theorem predicateFor_looking_keyed {service : Service} (keyed : service.settings.addressing = .keyed) {query : Query}
    {collection text : String} {value : Value} (looks : query.LooksFor collection service.settings.key value)
    (shown : value.toText? = some text) :
    ∃ predicate, service.predicateFor query.condition = .ok predicate ∧
      ∀ row, row.key = text → service.picks predicate row = true := by
  have builder : service.builder =
      Predicate.lift (KeyLookup.builder driverName service.settings.key) .keys Predicate.lookups := by
    rw [Service.builder, Predicate.builder, keyed]
  refine ⟨some (.keys ⟨[text]⟩), ?_, ?_⟩
  · rcases looks.condition with single | ⟨hint, listed⟩
    · rw [single, predicateFor, builder]
      refine PredicateBuilder.predicateFor_of_leaf (Condition.formed_equals _) rfl ?_
      simp [Predicate.lift, KeyLookup.builder, KeyLookup.ofLeaf, KeyLookup.keyText, shown, Except.map]
    · rw [listed, predicateFor, builder]
      refine PredicateBuilder.predicateFor_of_leaf (Condition.formed_isIn _ _ _) rfl ?_
      simp [Predicate.lift, KeyLookup.builder, KeyLookup.ofLeaf, KeyLookup.keyTexts, KeyLookup.keyText, shown,
        Except.map]
  · rintro row rfl
    simp [picks]

/-- A read without bounds shows the rows that its predicate picks. -/
theorem mem_reading_iff (service : Service) {query : Query} (noSkip : query.skip = none) (noLimit : query.limit = none)
    {predicate : Option Predicate} {rows : List StoredRow} (counted : (service.picked predicate rows).length ≤ wordMax)
    {entity : Entity} :
    entity ∈ service.reading query predicate rows ↔
      ∃ row ∈ service.picked predicate rows, service.shown query row = entity := by
  let compare (a b : StoredRow) := compareRows query.sorts (service.view a) (service.view b)
  have sorting := sorted_perm compare (service.picked predicate rows)
  have short : (sorted compare (service.picked predicate rows)).length ≤ wordMax := sorting.length_eq ▸ counted
  have all : service.reading query predicate rows =
      (sorted compare (service.picked predicate rows)).map (service.shown query) := by
    rw [reading_eq, noSkip, noLimit]
    simp [compare, List.take_of_length_le short]
  simp only [all, List.mem_map, sorting.mem_iff]

/-- A row is told by what a read shows of it. -/
theorem eq_of_shown_eq {service : Service} (apart : service.settings.key ≠ service.settings.revision)
    {rows : List StoredRow} (sound : SoundRows service.settings rows) {query : Query} {row other : StoredRow}
    (here : row ∈ rows) (there : other ∈ rows) (same : service.shown query other = service.shown query row) :
    other = row := by
  have keys := congrArg (fun entity => entity.find? service.settings.key) same
  simp only [service.find?_shown_key apart] at keys
  have values : other.keyValue = row.keyValue := congrArg Named.value (Option.some.inj keys)
  have texts : some other.key = some row.key := by
    rw [← (sound.rows other there).keyText, ← (sound.rows row here).keyText, values]
  exact List.inj_on_of_nodup_map sound.distinct there here (Option.some.inj texts)

/-- A read of all rows shows a live row just when its predicate picks it. -/
theorem selectAll_shows {service : Service} {store : Store} (sound : Sound service.settings store)
    (apart : service.settings.key ≠ service.settings.revision) (isOpen : store.isClosed = false) {query : Query}
    (visible : Text.isAllBlank query.collection = false) (noSkip : query.skip = none) (noLimit : query.limit = none)
    (counted : (store.rowsOf query.collection).length ≤ wordMax) {predicate : Option Predicate}
    (accepted : service.predicateFor query.condition = .ok predicate) {row : StoredRow}
    (lives : row ∈ live (store.rowsOf query.collection) store.now) :
    ∃ found, effect (service.selectAll query) store = (.ok found, store) ∧
      (service.shown query row ∈ found ↔ service.picks predicate row = true) := by
  have distinct := (sound.rowsOf query.collection).distinct
  have distinctLive := distinctKeys_live distinct store.now
  have short : (service.picked predicate (live (store.rowsOf query.collection) store.now)).length ≤ wordMax := by
    have fewer := service.length_picked_le distinctLive predicate
    have lives : (live (store.rowsOf query.collection) store.now).length ≤ (store.rowsOf query.collection).length :=
      List.length_filter_le ..
    omega
  refine ⟨_, service.effect_selectAll isOpen distinct visible accepted, ?_⟩
  rw [service.mem_reading_iff noSkip noLimit short]
  constructor
  · rintro ⟨other, picked, same⟩
    have present := (mem_live.mp (mem_of_mem_picked picked)).1
    cases eq_of_shown_eq apart (sound.rowsOf query.collection) (mem_live.mp lives).1 present same
    exact ((mem_picked_iff distinctLive).mp picked).2
  · intro picks
    exact ⟨row, (mem_picked_iff distinctLive).mpr ⟨lives, picks⟩, rfl⟩

/-- A run behind a write during which the row of a key lives and is left as it is. The store stays open, and its
collection has no more rows than can be counted. -/
structure Keeps (service : Service) (collection key : String) (operations : List Operation) (store : Store) :
    Prop where
  lives : service.LivesThrough collection key operations store
  untouched : service.countTouches collection key operations store = 0
  isOpen : (service.run operations store).state.isClosed = false
  counted : ((service.run operations store).state.rowsOf collection).length ≤ wordMax

/-- The row that a write has made is read later on, by every query whose predicate picks it. -/
theorem written_row_is_read {service : Service} (apart : service.settings.key ≠ service.settings.revision)
    {store after : Store} (sound : Sound service.settings store) {mode : WriteMode} {entity written : Entity}
    (gives : service.step (.write mode entity) store = (.ok (.entity written), after)) :
    ∃ draft row, service.draft mode entity store.madeKeys = .ok draft ∧ row.key = draft.key.text ∧
      row.keyValue = draft.key.value ∧ row.body = draft.body ∧
      ∀ later, service.Keeps entity.collection draft.key.text later after →
        let last := (service.run later after).state
        last.rowOf? entity.collection draft.key.text = some row ∧
          ∀ (query : Query) (predicate : Option Predicate), query.collection = entity.collection → query.skip = none →
            query.limit = none → service.predicateFor query.condition = .ok predicate →
            ∃ found, effect (service.selectAll query) last = (.ok found, last) ∧
              (service.shown query row ∈ found ↔ service.picks predicate row = true) := by
  have ends := of_step_write_eq_ok gives
  have soundAfter : Sound service.settings after := ends.sound sound
  have visible := ends.accepted.2
  cases ends with
  | written draft drafted isOpen row made =>
    obtain ⟨sameKey, keyValue, body, _⟩ := of_entryIn_eq_some made
    refine ⟨draft, row, drafted, sameKey, keyValue, body, ?_⟩
    intro later keeps last
    have lives := rowOf?_of_written (sound.rowsOf entity.collection).distinct sameKey keeps.lives.lives
    have stays : last.rowOf? entity.collection draft.key.text = some row :=
      (run_untouched soundAfter later keeps.lives keeps.untouched).trans lives
    refine ⟨stays, ?_⟩
    intro query predicate here noSkip noLimit accepted
    have soundLast : Sound service.settings last := run_sound soundAfter later
    have present := List.mem_of_find?_eq_some stays
    rw [← here] at present visible
    have counted : (last.rowsOf query.collection).length ≤ wordMax := by
      rw [here]
      exact keeps.counted
    exact selectAll_shows soundLast apart keeps.isOpen visible noSkip noLimit counted accepted present

/-- As long as a row lives untouched, a read that looks for a value that was written shows it, unless the value holds
a pattern that is no number. -/
theorem written_field_is_found (service : Service) (apart : service.settings.key ≠ service.settings.revision)
    (document : service.settings.addressing = .document) (maps : service.converter.registry.WritesMaps)
    (operations : List Operation) (start : Nat) {mode : WriteMode} {entity written : Entity} {after : Store}
    (gives : service.step (.write mode entity) (service.run operations { now := start }).state =
      (.ok (.entity written), after))
    {name : String} {value : Value} (once : entity.findAll name = [⟨name, value⟩])
    (noKey : name ≠ service.settings.key) (noRevision : name ≠ service.settings.revision) :
    ∃ key native, service.keyOf mode entity (service.run operations { now := start }).state.madeKeys = .ok key ∧
      service.converter.nativeOf value = .ok native ∧
      ∀ later, service.Keeps entity.collection key.text later after →
        let last := (service.run later after).state
        ∃ row, last.rowOf? entity.collection key.text = some row ∧
          ∀ query : Query, query.LooksFor entity.collection name value →
            ∃ found, effect (service.selectAll query) last = (.ok found, last) ∧
              (service.shown query row ∈ found ↔ native.opaqueValue.hasNaN = false) := by
  obtain ⟨draft, row, drafted, _, _, body, reads⟩ :=
    written_row_is_read apart (run_sound (.empty service.settings start) operations) gives
  obtain ⟨given, bodied⟩ := of_draft_eq_ok drafted
  have last : (entity.findAll name).getLast? = some ⟨name, value⟩ := by rw [once]; rfl
  have unreserved : name ∉ [service.settings.key, service.settings.revision] := by simp [noKey, noRevision]
  obtain ⟨native, written, held⟩ := Converter.find?_written bodied unreserved last
  refine ⟨draft.key, native, given, written, ?_⟩
  intro later keeps last
  obtain ⟨stays, reads⟩ := reads later keeps
  refine ⟨row, stays, ?_⟩
  intro query looks
  obtain ⟨predicate, accepted, picks⟩ := predicateFor_looking_document document looks written
  obtain ⟨found, selects, shows⟩ := reads query predicate looks.collection looks.skip looks.limit accepted
  refine ⟨found, selects, shows.trans ?_⟩
  have actual : Named.find? (service.view row) name = some native := by
    rw [service.find?_view_field noKey noRevision, body]
    exact held
  rw [picks row native actual, Value.equals_self (Converter.mapsDistinct_nativeOf maps value written),
    Bool.not_eq_true']

/-- A document with an amount of an application's own, a map with a null and a list, found beside another row one
millisecond before its row expires. -/
theorem written_document_is_found :
    let service : Service := { settings := {}, converter := { registry := ⟨[], [⟨"Money", writePayload⟩]⟩ } }
    let amount : Value := .custom ⟨"Money", .integer (Word.clamp .i64 7), 1⟩
    let value : Value := .documents [⟨"x", amount⟩, ⟨"m", .map [⟨"k", .nullMap⟩, ⟨"l", .list [.text "y"] .null⟩]⟩]
    let entity : Entity := ⟨"c", [⟨"_id", .text "a"⟩, ⟨"d", value⟩]⟩
    let later : List Operation := [.write (.insert none) ⟨"c", [⟨"d", amount⟩]⟩, .elapse 4]
    let query : Query := { collection := "c", condition := some (.leaf .isIn ⟨"d", .list [value] amount⟩) }
    ∃ written after row found, service.step (.write (.insert (some 5)) entity) {} = (.ok (.entity written), after) ∧
      (service.run later after).state.rowOf? "c" "a" = some row ∧
      effect (service.selectAll query) (service.run later after).state =
        (.ok found, (service.run later after).state) ∧
      service.shown query row ∈ found := by
  intro service amount value entity later query
  have gives : ∃ written after, service.step (.write (.insert (some 5)) entity) {} = (.ok (.entity written), after) ∧
      service.Keeps "c" "a" later after := by
    simp only [service, amount, value, entity, later]
    exact ⟨_, _, rfl, ⟨rfl, rfl, rfl⟩, rfl, rfl, by decide⟩
  obtain ⟨written, after, inserted, keeps⟩ := gives
  have maps : service.converter.registry.WritesMaps := by
    intro value stored writes
    cases value with
    | custom custom =>
      obtain ⟨writer, found, gives⟩ := Option.map_eq_some_iff.mp writes
      have only : writer = writePayload :=
        congrArg Named.value (List.mem_singleton.mp (Named.mem_of_find? found))
      rw [only, writePayload] at gives
      split at gives <;> cases gives <;> trivial
    | _ => cases writes
  have once : entity.findAll "d" = [⟨"d", value⟩] := rfl
  have numbers : ∃ native, service.converter.nativeOf value = .ok native ∧ native.opaqueValue.hasNaN = false :=
    ⟨_, rfl, rfl⟩
  obtain ⟨key, native, keyed, converted, finds⟩ :=
    written_field_is_found service (by decide) rfl maps [] 0 inserted once (by decide) (by decide)
  have given : service.keyOf (.insert (some 5)) entity 0 = .ok ⟨"a", .text "a", false⟩ := rfl
  obtain rfl := Except.ok.inj (given.symm.trans keyed)
  obtain ⟨row, stays, reads⟩ := finds later keeps
  obtain ⟨found, selects, shows⟩ := reads query ⟨rfl, rfl, rfl, Or.inr ⟨amount, rfl⟩⟩
  refine ⟨written, after, row, found, inserted, stays, selects, shows.mpr ?_⟩
  obtain ⟨same, evaluated, none⟩ := numbers
  rwa [Except.ok.inj (converted.symm.trans evaluated)]

end Store.Service

end Polystore
