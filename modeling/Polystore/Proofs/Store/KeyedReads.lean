import Polystore.Proofs.Predicate.KeyConditions
import Polystore.Proofs.Store.Soundness

/-!
Reads by key and reads by filter. On a condition on the key alone both addressings select the same rows, each once: a
lookup in the order of the keys that it lists, a filter in the order of the store.
-/
namespace Polystore.Store

/-- Repeats may be erased before or after a list is filtered. -/
theorem eraseDups_filter (keys : List String) (keep : String → Bool) :
    (keys.filter keep).eraseDups = keys.eraseDups.filter keep := by
  induction size : keys.length using Nat.strongRecOn generalizing keys with
  | ind count ih =>
    cases keys with
    | nil => rfl
    | cons key rest =>
      have shorter : (rest.filter fun other => !other == key).length < count :=
        size ▸ Nat.lt_succ_of_le (List.length_filter_le ..)
      have later := ih _ shorter (rest.filter fun other => !other == key) rfl
      rw [List.eraseDups_cons]
      by_cases kept : keep key = true
      · rw [List.filter_cons_of_pos kept, List.filter_cons_of_pos kept, List.eraseDups_cons, ← later,
          List.filter_filter, List.filter_filter]
        simp only [Bool.and_comm]
      · rw [List.filter_cons_of_neg kept, List.filter_cons_of_neg kept, ← later, List.filter_filter]
        congr 1
        refine List.filter_congr fun other _ => ?_
        by_cases same : other = key
        · simp [same, kept]
        · simp [same]

namespace Service

/-- The same service with its rows addressed in another way. -/
def addressed (service : Service) (addressing : Addressing) : Service :=
  { service with settings := { service.settings with addressing := addressing } }

/-- A keyed store has the lookup of a condition on the key alone. -/
theorem predicateFor_keyed (service : Service) {condition : Condition} (onKey : condition.OnKey service.settings.key) :
    (service.addressed .keyed).predicateFor (some condition) = .ok (some (.keys condition.lookup)) := by
  obtain ⟨_, image⟩ := KeyLookup.image_of_onKey driverName onKey
  obtain ⟨_, lifted⟩ := Predicate.lift_image Predicate.lookups_map image
  refine PredicateBuilder.predicateFor_of_image ?_ ?_ lifted
  · intro node member
    exact (onKey.nodes node member).not_malformed
  · intro node member
    exact (onKey.nodes node member).supported

/-- A store of documents has a filter of a condition on the key alone. -/
theorem predicateFor_document (service : Service)
    (unwritten : service.converter.registry.writersOf (.scalar .text) = []) {condition : Condition}
    (onKey : condition.OnKey service.settings.key) :
    ∃ filter, (service.addressed .document).predicateFor (some condition) = .ok (some (.filter filter)) ∧
      filter.HoldsAs service.settings.key condition := by
  obtain ⟨_, filter, image, holds⟩ := Filter.image_of_onKey driverName unwritten onKey
  obtain ⟨_, lifted⟩ := Predicate.lift_image Predicate.filters_map image
  refine ⟨filter, PredicateBuilder.predicateFor_of_image ?_ ?_ lifted, holds⟩
  · intro node member
    exact (onKey.nodes node member).not_malformed
  · intro node member
    rfl

theorem nodup_zipIdx {rows : List StoredRow} (distinct : DistinctKeys rows) : rows.zipIdx.Nodup := by
  refine List.Nodup.of_map (fun entry => entry.1.key) ?_
  have keys : rows.zipIdx.map (fun entry => entry.1.key) = rows.map StoredRow.key := by
    rw [← List.zipIdx_map_fst 0 rows, List.map_map, List.zipIdx_map_fst]
    rfl
  rw [keys]
  exact distinct

/-- A lookup selects no place twice, and the keys of what it selects are in the order in which it lists them. -/
theorem selected_keys (service : Service) {rows : List StoredRow} (distinct : DistinctKeys rows) (lookup : KeyLookup)
    (now : Nat) :
    ((service.selected rows (some (.keys lookup)) now).map fun entry => entry.1.key).Nodup ∧
      ((service.selected rows (some (.keys lookup)) now).map fun entry => entry.1.key).Sublist
        lookup.keys.eraseDups := by
  have keys : ((service.selected rows (some (.keys lookup)) now).map fun entry => entry.1.key) =
      (service.picked (some (.keys lookup)) (live rows now)).map StoredRow.key := by
    rw [← service.selected_rows distinct, List.map_map]
    rfl
  rw [keys]
  constructor
  · exact picked_distinct (distinctKeys_live distinct now) _
  · exact keys_of_lookup lookup.keys.eraseDups (live rows now)

/-- On a condition on the key alone both addressings select the same live rows, each once: a lookup in the order of
its keys, a filter in that of the store. -/
theorem keyed_reads_agree_with_filters (service : Service)
    (apart : service.settings.key ≠ service.settings.revision)
    (unwritten : service.converter.registry.writersOf (.scalar .text) = []) (operations : List Operation)
    (start : Nat) (collection : String)
    (texts : ∀ row ∈ (service.run operations { now := start }).state.rowsOf collection,
      ∃ text, row.keyValue = .text text)
    {condition : Condition} (onKey : condition.OnKey service.settings.key) (now : Nat) :
    let rows := (service.run operations { now := start }).state.rowsOf collection
    ∃ lookup filter,
      (service.addressed .keyed).predicateFor (some condition) = .ok (some (.keys lookup)) ∧
      (service.addressed .document).predicateFor (some condition) = .ok (some (.filter filter)) ∧
      let byKey := (service.addressed .keyed).selected rows (some (.keys lookup)) now
      let byFilter := (service.addressed .document).selected rows (some (.filter filter)) now
      (∀ entry, entry ∈ byKey ↔ entry ∈ byFilter) ∧ byKey.Nodup ∧ byFilter.Nodup ∧
        (byKey.map fun entry => entry.1.key).Sublist condition.leftmost.eraseDups ∧ byFilter.Sublist rows.zipIdx := by
  intro rows
  have sound : SoundRows service.settings rows :=
    (run_sound (.empty service.settings start) operations).rowsOf collection
  obtain ⟨filter, filtered, holds⟩ := service.predicateFor_document unwritten onKey
  refine ⟨condition.lookup, filter, service.predicateFor_keyed onKey, filtered, ?_⟩
  intro byKey byFilter
  -- Of a row of the collection both predicates see the text of its key.
  have alike {entry : StoredRow × Nat} (member : entry ∈ rows.zipIdx) :
      service.picks (some (.keys condition.lookup)) entry.1 = service.picks (some (.filter filter)) entry.1 := by
    have present : entry.1 ∈ rows := List.fst_mem_of_mem_zipIdx member
    obtain ⟨text, isText⟩ := texts entry.1 present
    have keyText : some text = some entry.1.key :=
      (congrArg Value.toText? isText).symm.trans (sound.rows _ present).keyText
    have shown := service.find?_view_key apart entry.1
    rw [isText] at shown
    rw [picks, picks, onKey.contains_lookup, holds _ _ shown, Option.some.inj keyText]
  obtain ⟨once, ordered⟩ := (service.addressed .keyed).selected_keys sound.distinct condition.lookup now
  have inPlace : byFilter.Sublist rows.zipIdx := List.filter_sublist.trans List.filter_sublist
  refine ⟨?_, List.Nodup.of_map _ once, (nodup_zipIdx sound.distinct).sublist inPlace, ?_, inPlace⟩
  · intro entry
    rw [mem_selected_iff sound.distinct, mem_selected_iff sound.distinct]
    refine and_congr_right fun member => and_congr_right fun _ => ?_
    exact Eq.congr_left (alike member)
  · have erased : condition.lookup.keys.eraseDups = condition.leftmost.eraseDups.filter (condition.allows ·) :=
      eraseDups_filter condition.leftmost (condition.allows ·)
    rw [erased] at ordered
    exact ordered.trans List.filter_sublist

/-- A conjunction in a conjunction that lists keys twice, one of a row that has expired. -/
theorem keyed_read_agrees_with_nested_filter :
    let service : Service := { settings := {}, converter := {} }
    let entity (key : String) : Entity := ⟨"c", [⟨"_id", .text key⟩]⟩
    let operations : List Operation := [.write (.insert none) (entity "a"), .write (.insert (some 5)) (entity "b"),
      .write (.insert none) (entity "d")]
    let listed (texts : List String) : Condition := .leaf .isIn ⟨"_id", .list (texts.map .text) .null⟩
    let condition : Condition := .all [listed ["d", "b", "d", "a"], .all [listed ["a", "d", "b", "a"]]]
    let rows := (service.run operations {}).state.rowsOf "c"
    ∃ lookup filter,
      (service.addressed .keyed).predicateFor (some condition) = .ok (some (.keys lookup)) ∧
      (service.addressed .document).predicateFor (some condition) = .ok (some (.filter filter)) ∧
      let byKey := (service.addressed .keyed).selected rows (some (.keys lookup)) 5
      let byFilter := (service.addressed .document).selected rows (some (.filter filter)) 5
      (byKey.map fun entry => entry.1.key) = ["d", "a"] ∧ (∀ entry, entry ∈ byKey ↔ entry ∈ byFilter) ∧
        byFilter.Nodup ∧ byFilter.Sublist rows.zipIdx := by
  intro service entity operations listed condition rows
  have onKey : condition.OnKey service.settings.key := by
    refine .all (List.cons_ne_nil _ _) fun child member => ?_
    rcases List.mem_pair.mp member with rfl | rfl
    · exact .isIn ["d", "b", "d", "a"] .null
    · refine .all (List.cons_ne_nil _ _) fun child member => ?_
      cases List.mem_singleton.mp member
      exact .isIn ["a", "d", "b", "a"] .null
  have texts : ∀ row ∈ rows, ∃ text, row.keyValue = .text text := by
    have stored : rows.map StoredRow.keyValue = ["a", "b", "d"].map .text := by
      simp only [rows, operations, entity, service]
      rfl
    intro row member
    have value : row.keyValue ∈ ["a", "b", "d"].map Value.text := stored ▸ List.mem_map_of_mem member
    obtain ⟨text, _, isText⟩ := List.mem_map.mp value
    exact ⟨text, isText.symm⟩
  obtain ⟨lookup, filter, keyed, filtered, same, _, once, _, inPlace⟩ :=
    keyed_reads_agree_with_filters service (by decide) rfl operations 0 "c" texts onKey 5
  have found : (service.addressed .keyed).predicateFor (some condition) =
      .ok (some (.keys ⟨["d", "b", "d", "a"]⟩)) := by
    simp only [condition, listed, service]
    rfl
  cases found.symm.trans keyed
  refine ⟨_, filter, keyed, filtered, ?_, same, once, inPlace⟩
  simp only [rows, operations, entity, service]
  rfl

end Service

end Polystore.Store
