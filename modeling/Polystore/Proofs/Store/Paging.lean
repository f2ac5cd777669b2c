import Polystore.Proofs.Store.Pages
import Polystore.Proofs.Store.Soundness

/-!
Paged reads are slices of one list. The list is made of the live rows that the predicate picks, sorted, cut by
`skip` and `limit`, projected and read as entities; it depends neither on the size of the pages nor on how
they are read.
-/
namespace Polystore.Store.Service

open Polystore.Action

/-- The cursor of a page says whether the list is read, and resumes behind the page if not. -/
theorem pageFrom_cursor {all : List Entity} (counted : all.length ≤ wordMax) (offset size : Nat) :
    ((pageFrom all offset size).cursor.exhausted = true ↔ min (offset + size) all.length = all.length) ∧
      ((pageFrom all offset size).cursor.exhausted = false →
        StartsAt (pageFrom all offset size).cursor.token (offset + size)) := by
  by_cases more : min (offset + size) all.length < all.length
  · have stop : min (offset + size) all.length = offset + size := by omega
    have cursor : (pageFrom all offset size).cursor = ⟨some (tokenOf (offset + size)), false⟩ := by
      simp only [pageFrom, stop]
      rw [if_pos (stop ▸ more)]
    rw [cursor]
    refine ⟨⟨fun last => Bool.noConfusion last, fun last => absurd last (Nat.ne_of_lt more)⟩, fun _ => ?_⟩
    exact startOf_eq_ok_iff.mp (startOf_tokenOf (by omega))
  · have cursor : (pageFrom all offset size).cursor = .finished := by
      simp only [pageFrom, more, if_false]
    rw [cursor]
    exact ⟨⟨fun _ => by omega, fun _ => rfl⟩, fun open_ => Bool.noConfusion open_⟩

end Polystore.Store.Service
