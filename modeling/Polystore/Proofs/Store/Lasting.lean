import Polystore.Proofs.Named
import Polystore.Proofs.Store.Revisions

/-!
Collections of which no row ends. Where no row has a lifetime and no whole row is removed, the keys of a
collection only ever grow at the end: they are the keys that were written, in the order of their first writes.
-/
namespace Polystore.Store

open Polystore.Action

/-- The keys of the live rows of a collection, in the order of the store. -/
def keysOf (store : Store) (collection : String) : List String :=
  (live (store.rowsOf collection) store.now).map StoredRow.key

/-- No live row of a collection has a lifetime. -/
def Lasting (store : Store) (collection : String) : Prop :=
  ∀ row ∈ live (store.rowsOf collection) store.now, row.expiry = none

/-- Whether an operation lets every row of a collection live on: it gives none of them a lifetime and removes
none. -/
def Operation.letsLive (collection : String) : Operation → Bool
  | .write (.insert (some _)) entity => entity.collection ≠ collection
  | .delete query => query.collection ≠ collection || !query.projection.isEmpty
  | _ => true

theorem live_of_lasting {rows : List StoredRow} (lasting : ∀ row ∈ rows, row.expiry = none) (now : Nat) :
    live rows now = rows := by
  refine List.filter_eq_self.mpr fun row member => ?_
  simp [StoredRow.isExpired, lasting row member]

/-- A list to which a key is appended unless it is there. -/
def appendNew (keys : List String) (key : String) : List String := if key ∈ keys then keys else keys ++ [key]

theorem prefix_appendNew (keys : List String) (key : String) : keys <+: appendNew keys key := by
  unfold appendNew
  split
  · exact List.prefix_refl keys
  · exact List.prefix_append keys [key]

private theorem eraseDups_appendNew (keys more : List String) (key : String) :
    (appendNew keys key ++ more).eraseDups = (keys ++ key :: more).eraseDups := by
  unfold appendNew
  split
  · rename_i member
    rw [eraseDups_append_of_mem member]
  · rw [List.append_assoc]
    rfl

namespace Service

/-- The key that an operation writes in a collection, if it does not fail. -/
def written? (service : Service) (store : Store) (collection : String) (operation : Operation) : Option String :=
  (service.keyWritten? collection store.madeKeys operation).filter fun _ => (service.step operation store).1.isOk

/-- The keys that a run writes in a collection, in order. -/
def writtenKeys (service : Service) (collection : String) : List Operation → Store → List String
  | [], _ => []
  | operation :: rest, store =>
    (service.written? store collection operation).toList ++
      writtenKeys service collection rest (service.step operation store).2

/-- The row that a write makes in a lasting collection has no lifetime. -/
theorem expiry_of_entryIn {mode : WriteMode} {now : Nat} {draft : Draft} {rows : List StoredRow} {row : StoredRow}
    (lasting : ∀ old ∈ rows, old.expiry = none) (forGood : mode = .update ∨ mode = .insert none)
    (made : entryIn mode now draft rows = some row) : row.expiry = none := by
  unfold entryIn at made
  cases present : rows.find? fun old => old.key = draft.key.text with
  | some old =>
    rw [present] at made
    cases made
    rcases forGood with isUpdate | isInsert
    · subst isUpdate
      exact lasting old (List.mem_of_find?_eq_some present)
    · subst isInsert
      rfl
  | none =>
    rw [present] at made
    rcases forGood with isUpdate | isInsert
    · subst isUpdate
      cases made
    · subst isInsert
      cases made
      rfl

private theorem forGood_of_letsLive {mode : WriteMode} {entity : Entity}
    (letsLive : (Operation.write mode entity).letsLive entity.collection = true) :
    mode = .update ∨ mode = .insert none := by
  cases mode with
  | update => exact Or.inl rfl
  | insert lifetime =>
    cases lifetime with
    | none => exact Or.inr rfl
    | some milliseconds => simp [Operation.letsLive] at letsLive

/-- A write leaves the keys of a lasting collection, and the one that it writes there is among them. -/
theorem WriteEnd.keysOf {service : Service} {mode : WriteMode} {entity : Entity} {store : Store}
    {ending : Except Failure Entity × Store} (ends : WriteEnd service mode entity store ending)
    {collection : String} (lasting : store.Lasting collection)
    (letsLive : (Operation.write mode entity).letsLive collection = true) :
    ending.2.Lasting collection ∧
      ending.2.keysOf collection =
        ((service.keyWritten? collection store.madeKeys (.write mode entity)).filter fun _ => ending.1.isOk).elim
          (store.keysOf collection) (appendNew (store.keysOf collection)) := by
  have refused (key : Option String) (keys : List String) :
      (key.filter fun _ => false).elim keys (appendNew keys) = keys := by
    cases key <;> rfl
  cases ends with
  | undrafted failure undrafted => exact ⟨lasting, (refused _ _).symm⟩
  | closed draft drafted isClosed => exact ⟨lasting, (refused _ _).symm⟩
  | absent draft drafted isOpen absent =>
    unfold Lasting Store.keysOf
    rw [live_purged]
    exact ⟨lasting, (refused _ _).symm⟩
  | written draft drafted isOpen row made =>
    have rows : (commit store entity.collection draft.key (setRow row (found store entity))).rowsOf collection =
        if entity.collection = collection then setRow row (found store entity) else store.rowsOf collection :=
      rowsOf_put store entity.collection collection _
    have now : (commit store entity.collection draft.key (setRow row (found store entity))).now = store.now := rfl
    unfold Lasting Store.keysOf
    rw [rows, now, keyWritten?_of_draft drafted]
    by_cases here : entity.collection = collection
    · subst here
      have forGood := expiry_of_entryIn lasting (forGood_of_letsLive letsLive) made
      have all : ∀ other ∈ setRow row (found store entity), other.expiry = none := by
        intro other member
        rcases mem_setRow member with old | new
        · exact lasting other old
        · exact new ▸ forGood
      rw [if_pos rfl, if_pos rfl, live_of_lasting all, keys_setRow, (of_entryIn_eq_some made).1]
      exact ⟨all, rfl⟩
    · rw [if_neg here, if_neg here]
      exact ⟨lasting, by simp⟩

/-- A removal that lets the rows of a lasting collection live on leaves their keys as they are. -/
theorem DeleteEnd.keysOf {service : Service} {query : DeleteQuery} {store : Store}
    {ending : Except Failure Nat × Store} (ends : DeleteEnd service query store ending)
    {collection : String} (distinct : DistinctKeys (store.rowsOf query.collection))
    (lasting : store.Lasting collection) (letsLive : (Operation.delete query).letsLive collection = true) :
    ending.2.Lasting collection ∧ ending.2.keysOf collection = store.keysOf collection := by
  cases ends with
  | unplanned failure unplanned => exact ⟨lasting, rfl⟩
  | closed predicate planned isClosed => exact ⟨lasting, rfl⟩
  | unknown predicate planned isOpen unknown => exact ⟨lasting, rfl⟩
  | removed predicate planned isOpen rows known =>
    have all : store.rowsOf query.collection = rows := by rw [rowsOf, known]; rfl
    unfold Lasting Store.keysOf
    rw [rowsOf_put, put_now]
    by_cases here : query.collection = collection
    · subst here
      have fields : query.projection.isEmpty = false := by simpa [Operation.letsLive] using letsLive
      unfold Lasting at lasting
      rw [all] at distinct lasting ⊢
      rw [if_pos rfl]
      simp only [remaining, fields, Bool.false_eq_true, if_false]
      rw [stripAt_selected service distinct, live_map fun row => by split <;> rfl]
      constructor
      · intro row member
        obtain ⟨old, lives, rfl⟩ := List.mem_map.mp member
        have before := lasting old lives
        split
        · exact before
        · exact before
      · rw [List.map_map]
        refine List.map_congr_left fun row _ => ?_
        simp only [Function.comp_apply]
        split <;> rfl
    · rw [if_neg here]
      exact ⟨lasting, rfl⟩

/-- An operation that lets the rows of a lasting collection live on leaves their keys, and the one that it
writes there is among them. -/
theorem step_keysOf {service : Service} {store : Store} (sound : Sound service.settings store)
    {operation : Operation} {collection : String} (lasting : store.Lasting collection)
    (letsLive : operation.letsLive collection = true) :
    (service.step operation store).2.Lasting collection ∧
      (service.step operation store).2.keysOf collection =
        (service.written? store collection operation).elim (store.keysOf collection)
          (appendNew (store.keysOf collection)) := by
  unfold written?
  cases operation with
  | write mode entity =>
    rw [step_write, isOk_replying]
    exact (write_end service mode entity store).keysOf lasting letsLive
  | delete query =>
    rw [step_delete]
    obtain ⟨still, same⟩ :=
      (delete_end service query store).keysOf (sound.rowsOf query.collection).distinct lasting letsLive
    exact ⟨still, same⟩
  | select query cursor =>
    rw [step_select service query cursor (sound.rowsOf query.collection).distinct]
    exact ⟨lasting, rfl⟩
  | close => exact ⟨lasting, rfl⟩
  | elapse milliseconds =>
    have later : store.now ≤ store.now + milliseconds := Nat.le_add_right ..
    have same : live (store.rowsOf collection) (store.now + milliseconds) =
        live (store.rowsOf collection) store.now := by
      rw [← live_live later, live_of_lasting lasting]
    have lives : live ((service.step (.elapse milliseconds) store).2.rowsOf collection)
        (service.step (.elapse milliseconds) store).2.now = live (store.rowsOf collection) store.now := same
    unfold Lasting Store.keysOf
    rw [lives]
    exact ⟨lasting, rfl⟩

theorem nodup_keysOf {settings : Settings} {store : Store} (sound : Sound settings store) (collection : String) :
    (store.keysOf collection).Nodup :=
  distinctKeys_live (sound.rowsOf collection).distinct store.now

/-- The keys of a lasting collection grow at the end. -/
theorem prefix_keysOf_step {service : Service} {store : Store} (sound : Sound service.settings store)
    {operation : Operation} {collection : String} (lasting : store.Lasting collection)
    (letsLive : operation.letsLive collection = true) :
    store.keysOf collection <+: (service.step operation store).2.keysOf collection := by
  rw [(step_keysOf sound lasting letsLive).2]
  cases service.written? store collection operation with
  | none => exact List.prefix_refl _
  | some key => exact prefix_appendNew _ key

/-- The keys of a lasting collection are those that were there and then those that were written, in the order of
their first writes. -/
theorem run_keysOf {service : Service} {store : Store} (sound : Sound service.settings store)
    {operations : List Operation} {collection : String} (lasting : store.Lasting collection)
    (letsLive : ∀ operation ∈ operations, operation.letsLive collection = true) :
    (service.run operations store).state.keysOf collection =
      (store.keysOf collection ++ service.writtenKeys collection operations store).eraseDups := by
  induction operations generalizing store with
  | nil =>
    have same := eraseDups_of_nodup (nodup_keysOf sound collection)
    rw [writtenKeys, List.append_nil]
    exact same.symm
  | cons operation rest ih =>
    obtain ⟨still, keys⟩ := step_keysOf sound lasting (letsLive operation (List.mem_cons_self ..))
    have later := ih (step_sound sound operation) still fun other member =>
      letsLive other (List.mem_cons_of_mem operation member)
    rw [keys] at later
    refine later.trans ?_
    rw [writtenKeys]
    cases service.written? store collection operation with
    | none => rfl
    | some key => exact eraseDups_appendNew _ _ key

end Service

end Polystore.Store
