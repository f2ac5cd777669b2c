import Polystore.Proofs.Store.Finding
import Polystore.Proofs.Store.Removals

/-!
Rows found by their keys. The key of a row is stored as it was given, while a filter compares it with what the key is
written as. So where the writers make texts of dates, times and identifiers, a filter finds no row by such a key; a
lookup by key does.
-/
namespace Polystore

/-- Dates, times and identifiers that have a text become texts in the standard registry. -/
theorem Registry.standard_write?_of_texted {type : ScalarType} (texted : type.isTemporal = true ∨ type = .uuid)
    {value : type.Carrier} {text : String} (shown : type.textOf value = some text) :
    ∃ stored, standard.write? (.scalar type (some value)) = some (.ok (.text stored)) := by
  cases type with
  | date | time | timestamp | uuid => exact ⟨_, rfl⟩
  | offsetTimestamp =>
    have profile : Rfc3339.write? value = some text := shown
    have writes : standard.write? (.scalar .offsetTimestamp (some value)) =
        some (Writer.textOr .time (Rfc3339.write? value)) := rfl
    rw [writes, profile]
    exact ⟨text, rfl⟩
  | _ => rcases texted with temporal | uuid <;> contradiction

/-- No date, time or identifier is equal to a text. -/
theorem Value.equals_text_of_texted {type : ScalarType} (texted : type.isTemporal = true ∨ type = .uuid)
    (value : type.Carrier) (text : String) : (Value.scalar type (some value)).equals (.text text) = false := by
  cases type with
  | date | time | timestamp | offsetTimestamp | uuid =>
    simp [equals, isNull, compare?, asInteger?, compareAlike?, kind, Kind.isNumeric, ScalarType.isNumeric, same,
      Value.text]
  | _ => rcases texted with temporal | uuid <;> contradiction

/-- A scalar that has a text is equal to what it is written as, unless it becomes a text or is no number. -/
theorem Converter.nativeOf_of_texted {converter : Converter} (standard : converter.registry = .standard)
    {type : ScalarType} {value : type.Carrier} {text : String} (shown : type.textOf value = some text) :
    ∃ native, converter.nativeOf (.scalar type (some value)) = .ok native ∧
      ((Value.scalar type (some value)).equals native.opaqueValue = true ↔
        type.isTemporal = false ∧ type ≠ .uuid ∧ (Value.scalar type (some value)).hasNaN = false) := by
  rw [nativeOf_of_isLeaf rfl]
  by_cases texted : type.isTemporal = true ∨ type = .uuid
  · obtain ⟨stored, written⟩ := Registry.standard_write?_of_texted texted shown
    rw [← standard] at written
    refine ⟨.scalar (.text stored), ?_, ?_⟩
    · unfold writeScalar
      rw [written]
      rfl
    · rw [Native.opaqueValue, Value.equals_text_of_texted texted value stored]
      rcases texted with temporal | uuid
      · simp [temporal]
      · simp [uuid]
  · obtain ⟨timeless, other⟩ := not_or.mp texted
    have unwritten : converter.registry.write? (.scalar type (some value)) = none := by
      rw [standard, Registry.standard_write?, if_neg timeless, if_neg other]
    refine ⟨.scalar (.scalar type (some value)), ?_, ?_⟩
    · rw [writeScalar_of_unwritten unwritten (by simp [Value.kind])]
      rfl
    · rw [Native.opaqueValue, Value.equals_self (Value.mapsDistinct_of_isLeaf rfl)]
      simp [timeless, other]

namespace Store.Service

open Polystore.Action

/-- As long as a row lives untouched, a read by its key shows it; but in a store of documents not by a date, a time, a
timestamp, an identifier or a pattern that is no number. -/
theorem written_key_is_found (service : Service) (standard : service.converter.registry = .standard)
    (apart : service.settings.key ≠ service.settings.revision) (operations : List Operation) (start : Nat)
    {mode : WriteMode} {entity written : Entity} {after : Store}
    (gives : service.step (.write mode entity) (service.run operations { now := start }).state =
      (.ok (.entity written), after)) :
    ∃ key, service.keyOf mode entity (service.run operations { now := start }).state.madeKeys = .ok key ∧
      ∀ later, service.Keeps entity.collection key.text later after →
        let last := (service.run later after).state
        ∃ row, last.rowOf? entity.collection key.text = some row ∧
          ∀ query : Query, query.LooksFor entity.collection service.settings.key key.value →
            ∃ found, effect (service.selectAll query) last = (.ok found, last) ∧
              (service.shown query row ∈ found ↔ service.settings.addressing = .keyed ∨
                key.value.kind.isTemporal = false ∧ key.value.kind ≠ .scalar .uuid ∧ key.value.hasNaN = false) := by
  obtain ⟨draft, row, drafted, sameKey, keyValue, _, reads⟩ :=
    written_row_is_read apart (run_sound (.empty service.settings start) operations) gives
  have given := (of_draft_eq_ok drafted).1
  have keyText := keyText_of_keyOf given
  refine ⟨draft.key, given, ?_⟩
  intro later keeps last
  obtain ⟨stays, reads⟩ := reads later keeps
  refine ⟨row, stays, ?_⟩
  intro query looks
  cases addressing : service.settings.addressing with
  | keyed =>
    obtain ⟨predicate, accepted, picks⟩ := predicateFor_looking_keyed addressing looks keyText
    obtain ⟨found, selects, shows⟩ := reads query predicate looks.collection looks.skip looks.limit accepted
    refine ⟨found, selects, ?_⟩
    simp [shows, picks row sameKey]
  | document =>
    obtain ⟨type, value, isScalar⟩ : ∃ type value, draft.key.value = .scalar type (some value) := by
      generalize draft.key.value = value at keyText
      cases value with
      | scalar type content =>
        cases content with
        | none => cases keyText
        | some content => exact ⟨type, content, rfl⟩
      | _ => cases keyText
    rw [isScalar] at keyText looks keyValue ⊢
    obtain ⟨native, converted, equal⟩ := Converter.nativeOf_of_texted standard keyText
    obtain ⟨predicate, accepted, picks⟩ := predicateFor_looking_document addressing looks converted
    obtain ⟨found, selects, shows⟩ := reads query predicate looks.collection looks.skip looks.limit accepted
    refine ⟨found, selects, shows.trans ?_⟩
    have actual := service.find?_view_key apart row
    rw [keyValue] at actual
    rw [picks row _ actual, Native.opaqueValue]
    simpa [Value.kind, Kind.isTemporal] using equal

/-- A store of documents does not find a row by the identifier that is its key, though the row is there. -/
theorem identifier_key_is_not_found :
    let service : Service := { settings := {}, converter := { registry := .standard } }
    let key : Value := .scalar .uuid (some (Uuid.numbered 1))
    let query : Query := { collection := "c", condition := some (.leaf .equals ⟨"_id", key⟩) }
    ∃ written after row,
      service.step (.write (.insert none) ⟨"c", [⟨"_id", key⟩]⟩) {} = (.ok (.entity written), after) ∧
      after.rowOf? "c" (Uuid.numbered 1).text = some row ∧ row.keyValue = key ∧
      effect (service.selectAll query) after = (.ok [], after) := by
  intro service key query
  let row : StoredRow := ⟨(Uuid.numbered 1).text, key, [], 1, none⟩
  let after : Store := { collections := [⟨"c", [row]⟩] }
  refine ⟨⟨"c", [⟨"_id", key⟩, ⟨"_rev", revisionValue 1⟩]⟩, after, row, ?_, ?_, rfl, ?_⟩
  · simp only [service, key, after, row]
    rfl
  · exact List.find?_cons_of_pos (by simp [row])
  · have accepted : service.predicateFor query.condition =
        .ok (some (.filter (.leaf .equals "_id" (.text (Uuid.numbered 1).text)))) := rfl
    have unequal : key.equals (.text (Uuid.numbered 1).text) = false :=
      Value.equals_text_of_texted (Or.inr rfl) (Uuid.numbered 1) _
    have unseen : service.picked (some (.filter (.leaf .equals "_id" (.text (Uuid.numbered 1).text)))) [row] = [] := by
      have actual : Named.find? (service.view row) "_id" = some (.scalar key) := rfl
      simp [picked, Filter.holds, actual, Filter.compares, Native.opaqueValue, unequal]
    have distinct : DistinctKeys (after.rowsOf "c") := List.nodup_singleton _
    have visible : Text.isAllBlank "c" = false := rfl
    have selects := service.effect_selectAll_whole rfl distinct visible accepted
    have lives : live (after.rowsOf "c") after.now = [row] := rfl
    rw [lives, unseen] at selects
    exact selects

/-- A keyed store finds a row by the date that is its key, behind an update and while its lifetime lasts. -/
theorem date_key_is_found :
    let service : Service := { settings := { addressing := .keyed }, converter := { registry := .standard } }
    let key : Value := .scalar .date (some ⟨2020, 2, 29, by decide⟩)
    let entity : Entity := ⟨"c", [⟨"_id", key⟩, ⟨"n", .text "b"⟩]⟩
    let store := (service.run [.write (.insert (some 5)) entity] {}).state
    let later : List Operation := [.write (.insert none) ⟨"c", [⟨"_id", .text "a"⟩]⟩, .elapse 4]
    let query : Query := { collection := "c", condition := some (.leaf .isIn ⟨"_id", .list [key] .null⟩) }
    ∃ written after row found, service.step (.write .update entity) store = (.ok (.entity written), after) ∧
      effect (service.selectAll query) (service.run later after).state =
        (.ok found, (service.run later after).state) ∧
      (service.run later after).state.rowOf? "c" "2020-02-29" = some row ∧ service.shown query row ∈ found := by
  intro service key entity store later query
  have gives : ∃ written after, service.step (.write .update entity) store = (.ok (.entity written), after) ∧
      service.Keeps "c" "2020-02-29" later after := by
    simp only [service, key, entity, store, later]
    exact ⟨_, _, rfl, ⟨rfl, rfl, rfl⟩, rfl, rfl, by decide⟩
  obtain ⟨written, after, updated, keeps⟩ := gives
  obtain ⟨given, keyed, finds⟩ :=
    written_key_is_found service rfl (by decide) [.write (.insert (some 5)) entity] 0 updated
  have named : service.keyOf .update entity store.madeKeys = .ok ⟨"2020-02-29", key, false⟩ := rfl
  obtain rfl := Except.ok.inj (named.symm.trans keyed)
  obtain ⟨row, stays, reads⟩ := finds later keeps
  obtain ⟨found, selects, shows⟩ := reads query ⟨rfl, rfl, rfl, Or.inr ⟨.null, rfl⟩⟩
  exact ⟨written, after, row, found, updated, selects, stays, shows.mpr (Or.inl rfl)⟩

end Store.Service

end Polystore
