import Polystore.Proofs.Converter.Rewriting
import Polystore.Proofs.Store.Revisions

/-!
Entities that are read and written back. An entity that a select gives names the row that it was read from, so that an
update with it finds the row; and where documents become maps, what it writes is the body that was read.
-/
namespace Polystore

open Polystore.Action

theorem Value.isNull_eq_false_of_toText? {value : Value} {text : String} (shown : value.toText? = some text) :
    value.isNull = false := by
  cases value with
  | scalar type content =>
    cases content with
    | none => cases shown
    | some content => rfl
  | _ => cases shown

namespace Store.Service

/-- An update of a live row renews it in its place, and its lifetime goes on. -/
theorem step_update_of_lives {service : Service} {store : Store} (sound : Sound service.settings store)
    {entity : Entity} {draft : Draft} (drafted : service.draft .update entity store.madeKeys = .ok draft)
    (isOpen : store.isClosed = false) {old : StoredRow}
    (lives : store.rowOf? entity.collection draft.key.text = some old) :
    ∃ after, service.step (.write .update entity) store =
        (.ok (.entity (service.stamped entity draft.key (old.revision + 1))), after) ∧
      after.rowOf? entity.collection draft.key.text =
        some { old with keyValue := draft.key.value, body := draft.body, revision := old.revision + 1 } := by
  have made : entryIn .update store.now draft (found store entity) =
      some (renewed .update store.now draft.key.value draft.body old) := by
    have present : (found store entity).find? (fun row => row.key = draft.key.text) = some old := lives
    unfold entryIn
    rw [present]
  have sameKey : old.key = draft.key.text := by simpa using List.find?_some lives
  have still : old.isExpired store.now = false := (mem_live.mp (List.mem_of_find?_eq_some lives)).2
  rw [step_write, effect_write_of_draft drafted isOpen, made]
  refine ⟨_, rfl, ?_⟩
  rw [rowOf?_commit (sound.rowsOf entity.collection).distinct, if_pos ⟨rfl, sameKey⟩]
  exact Option.filter_eq_some_iff.mpr ⟨rfl, by simpa [StoredRow.isExpired, renewed] using still⟩

/-- The key that an update finds in an entity that a read has given is that of the row read. -/
theorem StandsFor.keyOf {service : Service} {store : Store} (apart : service.settings.key ≠ service.settings.revision)
    {query : Query} {entity : Entity} {row : StoredRow} (stands : service.StandsFor store query entity row)
    (madeKeys : Nat) : service.keyOf .update entity madeKeys = .ok ⟨row.key, row.keyValue, false⟩ := by
  obtain ⟨shown, text⟩ := stands.key apart
  simp [Service.keyOf, keyField?, Entity.requireIdentity, shown, Value.isNull_eq_false_of_toText? text, text,
    Except.map]

/-- Where documents become maps, an entity that a read without projection has given is written as the body that was
read, and under the key of its row. -/
theorem StandsFor.draft {service : Service} {store : Store} (sound : Sound service.settings store)
    (apart : service.settings.key ≠ service.settings.revision)
    (passThrough : service.converter.settings.policy = .passThrough)
    (embedded : service.converter.settings.layout = .embedded) {query : Query} (whole : query.projection = [])
    (visible : Text.isAllBlank query.collection = false) {entity : Entity} {row : StoredRow}
    (stands : service.StandsFor store query entity row)
    (made : (Native.map row.body).MadeOf service.converter.registry.Spares) (madeKeys : Nat) :
    service.draft .update entity madeKeys = .ok ⟨⟨row.key, row.keyValue, false⟩, row.body⟩ := by
  have soundRow := (sound.rowsOf query.collection).rows row (mem_live.mp stands.lives).1
  have named : entity.collection = query.collection := by rw [stands.isShown]; rfl
  have own : service.ownFields entity = row.body.map (Named.map service.converter.read) := by
    rw [stands.isShown, ownFields_shown apart whole soundRow]
  have each (entry : Named Native) (member : entry ∈ row.body) :
      service.converter.nativeOf (service.converter.read entry.value) = .ok entry.value := by
    cases made with
    | map _ each =>
      rw [Converter.read, embedded]
      exact Converter.nativeOf_valueOf_embedded passThrough embedded (each entry member)
  have written : service.converter.written entity [service.settings.key, service.settings.revision] = .ok row.body := by
    refine written_ownFields ?_ ?_
    · rw [own, Converter.nativeOfFields_map each]
    · rw [own, Named.Distinct, Named.names_map]
      exact soundRow.distinct
  rw [Service.draft, requireCollection_eq_ok_iff.mpr ⟨named ▸ visible, rfl⟩, stands.keyOf apart, written]
  rfl

/-- Where documents become maps, writing undoes reading: an update with an entity that was read gives its row the body
that was read, whatever others did in between. -/
theorem read_row_is_written_back (service : Service)
    (passThrough : service.converter.settings.policy = .passThrough)
    (embedded : service.converter.settings.layout = .embedded) :
    (∀ row collection, (Native.map row).MadeOf service.converter.registry.Spares → ∀ state : Store,
      effect (service.converter.rowOf (service.converter.entityOf row collection)) state = (.ok row, state)) ∧
    (service.settings.key ≠ service.settings.revision → ∀ operations start,
      let store := (service.run operations { now := start }).state
      ∀ query cursor page, query.projection = [] →
        (service.step (.select query cursor) store).1 = .ok (.page page) →
        ∀ entity ∈ page.entities, ∃ row, service.StandsFor store query entity row ∧
          ((Native.map row.body).MadeOf service.converter.registry.Spares →
            (∃ written after, service.step (.write .update entity) store = (.ok (.entity written), after) ∧
              after.rowOf? query.collection row.key = some { row with revision := row.revision + 1 }) ∧
            ∀ later,
              let last := (service.run later store).state
              ∀ old, last.isClosed = false → last.rowOf? query.collection row.key = some old →
                ∃ written after, service.step (.write .update entity) last = (.ok (.entity written), after) ∧
                  after.rowOf? query.collection row.key = some
                    { old with keyValue := row.keyValue, body := row.body, revision := old.revision + 1 })) := by
  refine ⟨fun row collection made state =>
    Converter.rowOf_entityOf_embedded passThrough embedded made collection state, ?_⟩
  intro apart operations start store query cursor page whole gives entity member
  have sound : Sound service.settings store := run_sound (.empty service.settings start) operations
  have distinct := (sound.rowsOf query.collection).distinct
  obtain ⟨isOpen, visible, _⟩ := of_selected_page distinct gives member
  obtain ⟨row, stands⟩ := of_mem_selected_page sound gives member
  refine ⟨row, stands, fun made => ?_⟩
  have drafted := stands.draft sound apart passThrough embedded whole visible made
  have here : entity.collection = query.collection := by rw [stands.isShown]; rfl
  have renews (last : Store) (soundLast : Sound service.settings last) (old : StoredRow) (lastOpen : last.isClosed = false)
      (lives : last.rowOf? query.collection row.key = some old) :
      ∃ written after, service.step (.write .update entity) last = (.ok (.entity written), after) ∧
        after.rowOf? query.collection row.key = some
          { old with keyValue := row.keyValue, body := row.body, revision := old.revision + 1 } := by
    rw [← here] at lives ⊢
    obtain ⟨after, updated, renewed⟩ := step_update_of_lives soundLast (drafted last.madeKeys) lastOpen lives
    exact ⟨_, after, updated, renewed⟩
  exact ⟨renews store sound row isOpen (rowOf?_of_mem distinct stands.lives),
    fun later old => renews _ (run_sound sound later) old⟩

/-- A document with an empty one inside, and a list that holds a map among other values. -/
theorem read_nested_row_is_written_back :
    let service : Service := { settings := {}, converter := { settings := { layout := .embedded } } }
    let inner : Named Native := ⟨"x", .scalar (.text "y")⟩
    let body : Row := [⟨"d", .map [inner, ⟨"e", .map []⟩]⟩, ⟨"l", .list [.map [inner], inner.value]⟩]
    let fields : List Field := [⟨"d", .documents [⟨"x", .text "y"⟩, ⟨"e", .documents []⟩]⟩,
      ⟨"l", .list [.map [⟨"x", .text "y"⟩], .text "y"] .null⟩]
    let shown : Entity := ⟨"c", fields ++ [⟨"_id", .text "a"⟩, ⟨"_rev", revisionValue 1⟩]⟩
    let store := (service.run [.write (.insert none) ⟨"c", ⟨"_id", .text "a"⟩ :: fields⟩] {}).state
    store.rowOf? "c" "a" = some ⟨"a", .text "a", body, 1, none⟩ ∧
      (service.step (.select { collection := "c" } .start) store).1 = .ok (.page ⟨[shown], .finished⟩) ∧
      ∃ written after, service.step (.write .update shown) store = (.ok (.entity written), after) ∧
        after.rowOf? "c" "a" = some ⟨"a", .text "a", body, 2, none⟩ := by
  intro service inner body fields shown store
  have rows : live (store.rowsOf "c") store.now = [⟨"a", .text "a", body, 1, none⟩] := by
    simp only [store, service, fields, body, inner]
    rfl
  have selected : (service.step (.select { collection := "c" } .start) store).1 =
      .ok (.page ⟨[shown], .finished⟩) := by
    simp only [store, service, fields, shown]
    rfl
  have scalar : inner.value.MadeOf service.converter.registry.Spares := .scalar ⟨rfl, rfl⟩
  have made : (Native.map body).MadeOf service.converter.registry.Spares := by
    refine .map (by simp [Named.Distinct, Named.names, body]) fun field member => ?_
    rcases List.mem_pair.mp member with rfl | rfl
    · refine .map (by simp [Named.Distinct, Named.names, inner]) fun entry inside => ?_
      rcases List.mem_pair.mp inside with rfl | rfl
      · exact scalar
      · exact .map (by simp [Named.Distinct, Named.names]) (by simp)
    · refine .list fun item inside => ?_
      rcases List.mem_pair.mp inside with rfl | rfl
      · refine .map (by simp [Named.Distinct, Named.names]) fun entry here => ?_
        rwa [List.mem_singleton.mp here]
      · exact scalar
  obtain ⟨row, stands, writes⟩ := (read_row_is_written_back service rfl rfl).2 (by decide)
    [.write (.insert none) ⟨"c", ⟨"_id", .text "a"⟩ :: fields⟩] 0 { collection := "c" } .start _ rfl selected shown
    (List.mem_singleton_self shown)
  have lives : row ∈ live (store.rowsOf "c") store.now := stands.lives
  rw [rows] at lives
  obtain rfl := List.mem_singleton.mp lives
  refine ⟨?_, selected, (writes made).1⟩
  rw [rowOf?, rows]
  rfl

end Store.Service

end Polystore
