import Polystore.Proofs.Calendar.OffsetOrder
import Polystore.Proofs.Store.OriginalOrder

/-!
Reads by timestamps with offsets. They are written as texts that show local times, so that a range selects and a sort
arranges by these; this is what the instants would give where the instants are told apart by the texts, as in one zone
away from universal time, and it is not for fractions in universal time or across zones.
-/
namespace Polystore

namespace Converter

variable {converter : Converter}

/-- The standard registry writes a timestamp with an offset in the internet profile. -/
theorem nativeOf_offsetTimestamp (standard : converter.registry = .standard) {timestamp : OffsetTimestamp}
    {text : String} (writes : Rfc3339.write? timestamp = some text) :
    converter.nativeOf (.scalar .offsetTimestamp (some timestamp)) = .ok (.scalar (.text text)) := by
  have written : Registry.standard.write? (.scalar .offsetTimestamp (some timestamp)) =
      some (Writer.textOr .time (Rfc3339.write? timestamp)) := rfl
  rw [writes, ← standard] at written
  rw [nativeOf_of_isLeaf rfl]
  unfold writeScalar
  rw [written]
  rfl

/-- Timestamps that the texts put in the order of the instants. -/
theorem writesInOrder_offsetTimestamp (standard : converter.registry = .standard) {among : OffsetTimestamp → Prop}
    (writable : ∀ a, among a → a.IsWritable) (tells : ∀ a b, among a → among b → a.writtenOrder b = a.compare b) :
    converter.WritesInOrder .offsetTimestamp among where
  isOrdered := rfl
  texts a b memberA memberB := by
    obtain ⟨s, t, writesA, writesB, compared⟩ :=
      OffsetTimestamp.compare_texts (writable a memberA) (writable b memberB)
    refine ⟨s, t, nativeOf_offsetTimestamp standard writesA, nativeOf_offsetTimestamp standard writesB, ?_⟩
    rw [compared, tells a b memberA memberB,
      ScalarType.order_eq .offsetTimestamp OffsetTimestamp.compare fun _ _ => rfl]

end Converter

namespace Store.Service

open Polystore.Action

/-- Timestamps with offsets are compared as texts. Where these have the order of the instants, conditions and sorts go
by the instants. -/
theorem offset_reads_go_by_texts (service : Service) (standard : service.converter.registry = .standard) :
    (∀ a b : OffsetTimestamp, a.IsWritable → b.IsWritable →
      (∃ s t : String, service.converter.nativeOf (.scalar .offsetTimestamp (some a)) = .ok (.scalar (.text s)) ∧
        service.converter.nativeOf (.scalar .offsetTimestamp (some b)) = .ok (.scalar (.text t)) ∧
        (Value.text s).compare? (.text t) = some (a.writtenOrder b)) ∧
      (a.writtenOrder b = .eq ↔ a = b) ∧
      (a.offset = b.offset → (a.writtenOrder b = a.compare b ↔ ¬ a.Overtakes b)) ∧
      (172800000000000 ≤ (a.instant - b.instant).natAbs → a.writtenOrder b = a.compare b)) ∧
    ∀ among : OffsetTimestamp → Prop, (∀ a, among a → a.IsWritable) →
      (∀ a b, among a → among b → a.writtenOrder b = a.compare b) →
      ∀ (store : Store) (collection : String) (given : StoredRow → Entity),
        store.isClosed = false → DistinctKeys (store.rowsOf collection) → Text.isAllBlank collection = false →
        let rows := live (store.rowsOf collection) store.now
        service.WrittenFrom given rows →
        (service.settings.addressing = .document → ∀ (name : String) (operator : Operator) (bound : OffsetTimestamp),
          service.HoldsAmong .offsetTimestamp among given rows name → operator.isOrdering = true → among bound →
          ∃ predicate,
            service.predicateFor (some (.leaf operator ⟨name, .scalar .offsetTimestamp (some bound)⟩)) =
              .ok predicate ∧
            service.picked predicate rows = rows.filter fun row => (cell (given row).asGiven name).any fun value =>
              Filter.compares operator value (.scalar .offsetTimestamp (some bound))) ∧
        ∀ (query : Query) (predicate : Option Predicate), query.collection = collection →
          service.predicateFor query.condition = .ok predicate →
          (∀ sort ∈ query.sorts, service.HoldsAmong .offsetTimestamp among given rows sort.name) →
          let arranged := sorted (fun a b => compareRows query.sorts (given a).asGiven (given b).asGiven)
            (service.picked predicate rows)
          effect (service.selectAll query) store =
            (.ok (((arranged.drop (query.skip.getD 0)).take (min (query.limit.getD wordMax) wordMax)).map
              (service.shown query)), store) := by
  constructor
  · intro a b writableA writableB
    refine ⟨?_, OffsetTimestamp.writtenOrder_eq_iff, OffsetTimestamp.writtenOrder_eq_compare_iff,
      OffsetTimestamp.writtenOrder_of_apart writableA writableB⟩
    obtain ⟨s, t, writesA, writesB, compared⟩ := OffsetTimestamp.compare_texts writableA writableB
    exact ⟨s, t, Converter.nativeOf_offsetTimestamp standard writesA,
      Converter.nativeOf_offsetTimestamp standard writesB, congrArg some compared⟩
  · intro among writable tells store collection given isOpen distinct named rows written
    have ordered := Converter.writesInOrder_offsetTimestamp standard writable tells
    constructor
    · intro document name operator bound holds ordering member
      exact holds.picked standard document ordered written ordering member
    · intro query predicate here accepted holds arranged
      subst here
      have arranged_eq : sorted (fun a b => compareRows query.sorts (service.view a) (service.view b))
          (service.picked predicate rows) = arranged := by
        apply sorted_congr
        intro a pickedA b pickedB
        exact compareRows_among standard written
          (fun sort member => ⟨.offsetTimestamp, among, ordered, holds sort member⟩) (mem_of_mem_picked pickedA) (mem_of_mem_picked pickedB)
      have parts := service.reading_eq query predicate rows
      rw [arranged_eq] at parts
      rw [service.effect_selectAll isOpen distinct named accepted, parts]

/-- Of two timestamps half a second apart the later has the lesser text, so that a range from the earlier on misses it;
and one instant in two zones is not equal to itself. -/
theorem universal_half_second_is_not_found :
    let midnight : Timestamp := ⟨⟨2024, 1, 1, by decide⟩, ⟨0, 0, 0, 0, by decide⟩⟩
    let half : Timestamp := ⟨⟨2024, 1, 1, by decide⟩, ⟨0, 0, 0, 500000000, by decide⟩⟩
    let earlier : OffsetTimestamp := midnight.universal
    let later : OffsetTimestamp := half.universal
    let elsewhere : OffsetTimestamp := ⟨⟨⟨2024, 1, 1, by decide⟩, ⟨1, 0, 0, 500000000, by decide⟩⟩, 3600, by decide⟩
    let field (timestamp : OffsetTimestamp) : Field := ⟨"t", .scalar .offsetTimestamp (some timestamp)⟩
    let service : Service := { settings := {}, converter := { registry := .standard } }
    let query (operator : Operator) (bound : OffsetTimestamp) : Query :=
      { collection := "s", condition := some (.leaf operator (field bound)) }
    earlier.compare later = .lt ∧ later.compare elsewhere = .eq ∧
      ∃ written after,
        service.step (.write (.insert none) ⟨"s", [field later, ⟨"_id", .text "a"⟩]⟩) {} =
          (.ok (.entity written), after) ∧
        effect (service.selectAll (query .greater earlier)) after = (.ok [], after) ∧
        effect (service.selectAll (query .equals elsewhere)) after = (.ok [], after) := by
  intro midnight half earlier later elsewhere field service query
  let row : StoredRow := ⟨"a", .text "a", [⟨"t", .scalar (.text "2024-01-01T00:00:00.5Z")⟩], 1, none⟩
  let after : Store := { collections := [⟨"s", [row]⟩] }
  refine ⟨by decide, by decide, ⟨"s", [field later, ⟨"_id", .text "a"⟩, ⟨"_rev", revisionValue 1⟩]⟩, after, ?_, ?_, ?_⟩
  · simp only [service, field, later, half, after, row]
    rfl
  · simp only [service, field, query, earlier, midnight, after, row]
    rfl
  · simp only [service, field, query, elsewhere, after, row]
    rfl

/-- Two hours ahead of universal time half a second is behind the whole second. -/
theorem zoned_half_second_is_found :
    let ahead (nanosecond : Nat) (valid : IsTime 10 0 0 nanosecond) : OffsetTimestamp :=
      ⟨⟨⟨2024, 1, 1, by decide⟩, ⟨10, 0, 0, nanosecond, valid⟩⟩, 7200, by decide⟩
    let whole := ahead 0 (by decide)
    let half := ahead 500000000 (by decide)
    let given (row : StoredRow) : Entity :=
      if row.key = "a" then ⟨"s", [⟨"t", .scalar .offsetTimestamp (some whole)⟩]⟩
      else if row.key = "b" then ⟨"s", [⟨"t", .scalar .offsetTimestamp (some half)⟩]⟩
      else ⟨"s", [⟨"t", .null⟩]⟩
    let row (key : String) (value : Value) : StoredRow := ⟨key, .text key, [⟨"t", .scalar value⟩], 1, none⟩
    let text (timestamp : OffsetTimestamp) : String := (Rfc3339.write? timestamp).getD ""
    let rows := [row "a" (.text (text whole)), row "b" (.text (text half)), row "c" .null]
    let service : Service := { settings := {}, converter := { registry := .standard } }
    let store : Store := { collections := [⟨"s", rows⟩] }
    let query : Query :=
      { collection := "s", sorts := [⟨"t", .descending⟩],
        condition := some (.leaf .greaterOrEqual ⟨"t", .scalar .offsetTimestamp (some whole)⟩) }
    text whole = "2024-01-01T10:00:00+02:00" ∧ text half = "2024-01-01T10:00:00.5+02:00" ∧
      service.WrittenFrom given rows ∧ ∃ found, effect (service.selectAll query) store = (.ok found, store) ∧
        found.map (fun entity => (entity.find? "_id").bind fun field => field.value.asText?) =
          [some "b", some "a"] := by
  intro ahead whole half given row text rows service store query
  have written : service.WrittenFrom given rows := by
    intro row member
    simp only [rows, List.mem_cons, List.not_mem_nil, or_false] at member
    rcases member with rfl | rfl | rfl
    · rfl
    · rfl
    · rfl
  let among (timestamp : OffsetTimestamp) : Prop := timestamp.IsWritable ∧ timestamp.offset = 7200
  have writable : ∀ a, among a → a.IsWritable := fun _ member => member.1
  have tells : ∀ a b, among a → among b → a.writtenOrder b = a.compare b := by
    intro a b memberA memberB
    refine (OffsetTimestamp.writtenOrder_eq_compare_iff (memberA.2.trans memberB.2.symm)).mpr ?_
    rintro ⟨universal, _⟩
    rw [memberA.2] at universal
    cases universal
  have wholeAmong : among whole := ⟨⟨by decide, by decide, by decide⟩, rfl⟩
  have halfAmong : among half := ⟨⟨by decide, by decide, by decide⟩, rfl⟩
  have holds : service.HoldsAmong .offsetTimestamp among given rows "t" := by
    refine ⟨by decide, by decide, ?_⟩
    intro row member value held
    simp only [rows, List.mem_cons, List.not_mem_nil, or_false] at member
    rcases member with rfl | rfl | rfl
    · exact .inr ⟨whole, wholeAmong, (Option.some.inj held).symm⟩
    · exact .inr ⟨half, halfAmong, (Option.some.inj held).symm⟩
    · exact .inl (Option.some.inj held ▸ rfl)
  obtain ⟨_, reads⟩ := offset_reads_go_by_texts service rfl
  obtain ⟨conditions, sorting⟩ := reads among writable tells store "s" given rfl (by decide) (by decide) written
  obtain ⟨predicate, accepted, picked⟩ := conditions rfl "t" .greaterOrEqual whole holds rfl wholeAmong
  have read := sorting query predicate rfl accepted fun sort member => by
    rw [List.mem_singleton.mp member]
    exact holds
  rw [picked] at read
  exact ⟨by decide +kernel, by decide +kernel, written, _, read, by decide +kernel⟩

end Store.Service

end Polystore
