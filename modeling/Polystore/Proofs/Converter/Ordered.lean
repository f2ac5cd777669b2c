import Polystore.Proofs.Calendar.Order
import Polystore.Proofs.Converter.Elements
import Polystore.Proofs.Uuid
import Polystore.Proofs.Value.Order

/-!
Values that are written as texts in their own order. The standard registry makes texts of dates, times, timestamps and
identifiers, and these texts stand to one another as the values do; so what is written for them can be compared in their
place. Timestamps with offsets are no such values: their texts show local times.
-/
namespace Polystore

/-- The types whose scalars are written as texts in the order of the scalars. -/
def ScalarType.writesInOrder : ScalarType → Bool
  | .date | .time | .timestamp | .uuid => true
  | _ => false

theorem ScalarType.isOrdered_of_writesInOrder {type : ScalarType} (ordered : type.writesInOrder = true) :
    type.isOrdered = true := by
  cases type with
  | date | time | timestamp | uuid => rfl
  | _ => cases ordered

/-- Scalars without a year before the year zero; years have four digits at most. -/
def ScalarType.InEra : (type : ScalarType) → type.Carrier → Prop
  | .date, day => 0 ≤ day.year
  | .timestamp, moment => 0 ≤ moment.date.year
  | _, _ => True

namespace Converter

variable {converter : Converter}

/-- Two scalars are written as texts that stand to one another as the scalars do. -/
theorem exists_texts (standard : converter.registry = .standard) {type : ScalarType}
    (ordered : type.writesInOrder = true) {a b : type.Carrier} (eraA : type.InEra a) (eraB : type.InEra b) :
    ∃ s t : String, converter.nativeOf (.scalar type (some a)) = .ok (.scalar (.text s)) ∧
      converter.nativeOf (.scalar type (some b)) = .ok (.scalar (.text t)) ∧
      compareText s t = type.order a b := by
  have written {value : type.Carrier} {text : String}
      (writes : Registry.standard.write? (.scalar type (some value)) = some (.ok (.text text))) :
      converter.nativeOf (.scalar type (some value)) = .ok (.scalar (.text text)) := by
    rw [← standard] at writes
    rw [nativeOf_of_isLeaf rfl]
    unfold writeScalar
    rw [writes]
    rfl
  cases type with
  | date =>
    rw [ScalarType.order_eq .date Date.compare fun _ _ => rfl]
    exact ⟨a.text, b.text, written rfl, written rfl, Date.compare_text eraA eraB⟩
  | time =>
    rw [ScalarType.order_eq .time Time.compare fun _ _ => rfl]
    exact ⟨a.storedText, b.storedText, written rfl, written rfl, Time.compare_storedText a b⟩
  | timestamp =>
    rw [ScalarType.order_eq .timestamp Timestamp.compare fun _ _ => rfl]
    exact ⟨a.storedText, b.storedText, written rfl, written rfl, Timestamp.compare_storedText eraA eraB⟩
  | uuid =>
    rw [ScalarType.order_eq .uuid Uuid.compare fun _ _ => rfl]
    exact ⟨a.text, b.text, written rfl, written rfl, Uuid.compare_text a b⟩
  | _ => cases ordered

/-- Scalars of a type any two of which are written as texts that stand to one another as the scalars do. -/
structure WritesInOrder (converter : Converter) (type : ScalarType) (among : type.Carrier → Prop) : Prop where
  isOrdered : type.isOrdered = true
  texts : ∀ a b : type.Carrier, among a → among b →
    ∃ s t : String, converter.nativeOf (.scalar type (some a)) = .ok (.scalar (.text s)) ∧
      converter.nativeOf (.scalar type (some b)) = .ok (.scalar (.text t)) ∧ compareText s t = type.order a b

theorem writesInOrder_inEra (standard : converter.registry = .standard) {type : ScalarType}
    (ordered : type.writesInOrder = true) : converter.WritesInOrder type type.InEra where
  isOrdered := ScalarType.isOrdered_of_writesInOrder ordered
  texts _ _ := exists_texts standard ordered

end Converter

end Polystore
