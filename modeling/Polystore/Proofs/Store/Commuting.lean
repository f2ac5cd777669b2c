import Polystore.Proofs.Store.Returned

/-!
Writes that commute. Two writes that name their keys, and do not name one key of one collection, give the same in either
order and leave the same live rows. The order of the rows is the same, too, but that of two new ones. Each write clears
expired rows of its collection away, which the other one cannot tell, and finds its own row where it would be without
the other.
-/
namespace Polystore.Store

open Polystore.Action

/-- Two lists of rows are the same, but for the order of two rows at their end, of two keys that had no row before. -/
inductive SameButNew (before : List StoredRow) (a b : Option String) : List StoredRow → List StoredRow → Prop where
  | same (rows : List StoredRow) : SameButNew before a b rows rows
  | swapped {first second : StoredRow} {rest : List StoredRow} (isFirst : a = some first.key)
    (isSecond : b = some second.key) (firstNew : before.find? (fun row => row.key = first.key) = none)
    (secondNew : before.find? (fun row => row.key = second.key) = none) :
    SameButNew before a b (rest ++ [first, second]) (rest ++ [second, first])

/-- The rows of a collection with the row that a write makes, if it makes one. -/
def filed (made : Option StoredRow) (rows : List StoredRow) : List StoredRow := made.elim rows (setRow · rows)

theorem mem_filed {made : Option StoredRow} {rows : List StoredRow} {row : StoredRow} (member : row ∈ filed made rows) :
    row ∈ rows ∨ made = some row := by
  cases made with
  | none => exact Or.inl member
  | some made => exact (mem_setRow member).imp_right fun same => congrArg some same.symm

theorem setRow_setRow {a b : StoredRow} (apart : a.key ≠ b.key) (rows : List StoredRow) :
    setRow b (setRow a rows) = setRow a (setRow b rows) ∨
      rows.find? (fun row => row.key = a.key) = none ∧ rows.find? (fun row => row.key = b.key) = none ∧
        setRow b (setRow a rows) = rows ++ [a, b] ∧ setRow a (setRow b rows) = rows ++ [b, a] := by
  induction rows with
  | nil =>
    right
    simp [setRow, apart, apart.symm]
  | cons other rest ih =>
    by_cases isA : other.key = a.key
    · have notB : ¬ other.key = b.key := fun isB => apart (isA.symm.trans isB)
      left
      simp [setRow, isA, apart]
    · by_cases isB : other.key = b.key
      · left
        simp [setRow, isB, apart.symm]
      · rcases ih with same | ⟨newA, newB, forth, back⟩
        · left
          simp [setRow, isA, isB, same]
        · right
          simp [setRow, isA, isB, forth, back, newA, newB]

/-- Rows of two keys may be put into their places in either order. -/
theorem filed_filed {a b : Option StoredRow} (apart : ∀ first ∈ a, ∀ second ∈ b, first.key ≠ second.key)
    (rows : List StoredRow) :
    SameButNew rows (a.map StoredRow.key) (b.map StoredRow.key) (filed b (filed a rows)) (filed a (filed b rows)) := by
  cases a with
  | none => exact .same _
  | some first =>
    cases b with
    | none => exact .same _
    | some second =>
      rcases setRow_setRow (apart first rfl second rfl) rows with same | ⟨firstNew, secondNew, forth, back⟩
      · simp only [filed, Option.elim_some, same]
        exact .same _
      · simp only [filed, Option.elim_some, forth, back]
        exact .swapped rfl rfl firstNew secondNew

theorem live_cons (row : StoredRow) (rest : List StoredRow) (now : Nat) :
    live (row :: rest) now = if row.isExpired now then live rest now else row :: live rest now := by
  cases gone : row.isExpired now <;> simp [live, gone]

/-- Expired rows may be cleared away before a row is put in its place, if the place is not that of an expired row. -/
theorem live_setRow_live {row : StoredRow} {rows : List StoredRow} {now : Nat}
    (lives : ∀ old ∈ rows, old.key = row.key → old.isExpired now = false) :
    live (setRow row (live rows now)) now = live (setRow row rows) now := by
  induction rows with
  | nil => rfl
  | cons old rest ih =>
    have others := ih fun other member => lives other (List.mem_cons_of_mem old member)
    by_cases expired : old.isExpired now = true
    · have elsewhere : ¬ old.key = row.key := by
        intro here
        rw [lives old (List.mem_cons_self ..) here] at expired
        cases expired
      rw [live_cons, if_pos expired, setRow, if_neg elsewhere, live_cons, if_pos expired]
      exact others
    · rw [live_cons, if_neg expired]
      by_cases here : old.key = row.key
      · rw [setRow, if_pos here, setRow, if_pos here, live_cons, live_cons, live_live_now]
      · rw [setRow, if_neg here, setRow, if_neg here, live_cons, if_neg expired, live_cons, if_neg expired, others]

/-- Clearing expired rows away between two writes changes no live row. -/
theorem live_filed_live {a b : Option StoredRow} (apart : ∀ first ∈ a, ∀ second ∈ b, first.key ≠ second.key)
    {rows : List StoredRow} {now : Nat} (lives : ∀ row ∈ rows, row.isExpired now = false) :
    live (filed b (live (filed a rows) now)) now = live (filed b (filed a rows)) now := by
  cases b with
  | none => exact live_live_now (filed a rows) now
  | some second =>
    refine live_setRow_live fun old member here => ?_
    rcases mem_filed member with before | isFirst
    · exact lives old before
    · exact absurd here (apart old isFirst second rfl)

theorem live_eq_self {rows : List StoredRow} {now : Nat} (lives : ∀ row ∈ rows, row.isExpired now = false) :
    live rows now = rows := by
  refine List.filter_eq_self.mpr fun row member => ?_
  rw [lives row member]
  rfl

namespace SameButNew

variable {before rows others : List StoredRow} {a b c d : Option String}

theorem imp (firstKey : ∀ key, a = some key → c = some key) (secondKey : ∀ key, b = some key → d = some key)
    (alike : SameButNew before a b rows others) : SameButNew before c d rows others := by
  cases alike with
  | same => exact .same _
  | swapped isFirst isSecond firstNew secondNew =>
    exact .swapped (firstKey _ isFirst) (secondKey _ isSecond) firstNew secondNew

/-- What is the same but for the order of new rows is so without the expired ones. -/
theorem live (alike : SameButNew before a b rows others) (now : Nat) :
    SameButNew before a b (live rows now) (live others now) := by
  cases alike with
  | same => exact .same _
  | @swapped first second rest isFirst isSecond firstNew secondNew =>
    have split (more : List StoredRow) : Store.live (rest ++ more) now = Store.live rest now ++ Store.live more now :=
      List.filter_append ..
    rw [split, split, live_cons, live_cons, live_cons, live_cons]
    by_cases firstGone : first.isExpired now = true
    · simp only [firstGone, if_true, live_nil]
      exact .same _
    · by_cases secondGone : second.isExpired now = true
      · simp only [secondGone, if_true, live_nil]
        exact .same _
      · simp only [firstGone, secondGone, live_nil]
        exact .swapped isFirst isSecond firstNew secondNew

/-- The row of a key does not depend on the order. -/
theorem find? (apart : ∀ key, a = some key → b ≠ some key) (alike : SameButNew before a b rows others) (key : String) :
    rows.find? (fun row => row.key = key) = others.find? fun row => row.key = key := by
  cases alike with
  | same => rfl
  | @swapped first second rest isFirst isSecond firstNew secondNew =>
    rw [List.find?_append, List.find?_append]
    congr 1
    by_cases here : first.key = key
    · have elsewhere : ¬ second.key = key := by
        intro there
        exact apart first.key isFirst (isSecond.trans (congrArg some (there.trans here.symm)))
      simp [here, elsewhere]
    · rw [List.find?_cons_of_neg (by simpa using here), List.find?_cons, List.find?_cons]
      simp [here]

end SameButNew

namespace Service

/-- An entity has a key of its own. -/
def NamesKey (service : Service) (entity : Entity) : Prop :=
  ∃ field, entity.find? service.settings.key = some field ∧ field.value.isNull = false

/-- Whatever a write does with it and however many keys the store has made, a key that an entity has is taken. -/
theorem keyOf_of_find? {service : Service} {entity : Entity} {field : Field}
    (found : entity.find? service.settings.key = some field) (present : field.value.isNull = false) (mode : WriteMode)
    (madeKeys : Nat) :
    service.keyOf mode entity madeKeys =
      match field.value.toText? with
      | some text => .ok ⟨text, field.value, false⟩
      | none => .error (.ofFault (.conversion field.value.kind
          ("the key field `" ++ service.settings.key ++ "` must be a scalar"))) := by
  have given : service.keyField? mode entity = .ok (some field) := by
    cases mode with
    | update => simp [keyField?, Entity.requireIdentity, found, present, Except.map]
    | insert lifetime => simp [keyField?, found, present]
  rw [keyOf, given]
  rfl

/-- A write of an entity that has a key goes by that key and makes none. -/
theorem NamesKey.key {service : Service} {entity : Entity} (names : service.NamesKey entity) {mode : WriteMode}
    {madeKeys : Nat} {draft : Draft} (drafted : service.draft mode entity madeKeys = .ok draft) :
    draft.key.isMade = false ∧ service.keyShown entity = some draft.key.text := by
  obtain ⟨field, found, present⟩ := names
  have keyed := (of_draft_eq_ok drafted).1
  rw [keyOf_of_find? found present] at keyed
  have shown : service.keyShown entity = field.value.toText? := by rw [keyShown, found, Option.bind_some]
  rw [shown]
  split at keyed
  · rename_i text isText
    rw [← Except.ok.inj keyed]
    exact ⟨rfl, isText⟩
  · cases keyed

/-- A write that comes to a closed store, or that cannot be worked out. -/
def Idle (service : Service) (store : Store) (mode : WriteMode) (entity : Entity) : Prop :=
  store.isClosed = true ∨ ∃ failure, service.draft mode entity store.madeKeys = .error failure

theorem Idle.state {service : Service} {store : Store} {mode : WriteMode} {entity : Entity}
    (idle : service.Idle store mode entity) : (service.step (.write mode entity) store).2 = store := by
  have ends := write_end service mode entity store
  rw [step_write]
  generalize effect (service.write mode entity) store = ending at ends
  cases ends with
  | undrafted failure undrafted => rfl
  | closed draft drafted isClosed => rfl
  | absent draft drafted isOpen absent =>
    rcases idle with isClosed | ⟨failure, undrafted⟩
    · cases isOpen.symm.trans isClosed
    · cases drafted.symm.trans undrafted
  | written draft drafted isOpen row made =>
    rcases idle with isClosed | ⟨failure, undrafted⟩
    · cases isOpen.symm.trans isClosed
    · cases drafted.symm.trans undrafted

theorem exists_of_not_idle {service : Service} {store : Store} {mode : WriteMode} {entity : Entity}
    (active : ¬ service.Idle store mode entity) :
    ∃ draft, service.draft mode entity store.madeKeys = .ok draft ∧ store.isClosed = false := by
  obtain ⟨isOpen, worked⟩ := not_or.mp active
  cases drafted : service.draft mode entity store.madeKeys with
  | error failure => exact absurd ⟨failure, drafted⟩ worked
  | ok draft => exact ⟨draft, rfl, Bool.eq_false_iff.mpr isOpen⟩

/-- A write that is not idle clears its collection of expired rows and files the row that it makes, if it makes one. -/
theorem step_write_active {service : Service} {store : Store} {mode : WriteMode} {entity : Entity} {draft : Draft}
    (drafted : service.draft mode entity store.madeKeys = .ok draft) (unmade : draft.key.isMade = false)
    (isOpen : store.isClosed = false) :
    (service.step (.write mode entity) store).2 =
      store.put entity.collection (filed (entryIn mode store.now draft (found store entity)) (found store entity)) := by
  rw [step_write, effect_write_of_draft drafted isOpen]
  cases entryIn mode store.now draft (found store entity) with
  | none => rfl
  | some row =>
    simp only [replying, commit, unmade]
    rfl

/-- What a write gives depends on the live row of its key alone. -/
theorem step_write_congr {service : Service} {store other : Store} {mode : WriteMode} {entity : Entity}
    (sameOpen : store.isClosed = other.isClosed)
    (sameDraft : service.draft mode entity store.madeKeys = service.draft mode entity other.madeKeys)
    (sameRow : ∀ draft, service.draft mode entity store.madeKeys = .ok draft →
      store.rowOf? entity.collection draft.key.text = other.rowOf? entity.collection draft.key.text) :
    (service.step (.write mode entity) store).1 = (service.step (.write mode entity) other).1 := by
  cases drafted : service.draft mode entity store.madeKeys with
  | error failure =>
    rw [step_write, step_write, effect_write, effect_write, ← sameDraft, drafted]
    rfl
  | ok draft =>
    have row := sameRow draft drafted
    rw [drafted] at sameDraft
    cases isOpen : store.isClosed with
    | true =>
      rw [isOpen] at sameOpen
      rw [step_write, step_write, effect_write, effect_write, ← sameDraft, drafted, isOpen, ← sameOpen]
      simp only [replying, if_true]
    | false =>
      rw [isOpen] at sameOpen
      rw [step_write_let_in drafted isOpen, step_write_let_in sameDraft.symm sameOpen.symm, revision?, revision?, row]

/-- A write of an entity that has a key leaves all but its collection as it is. -/
theorem NamesKey.frame {service : Service} {entity : Entity} (names : service.NamesKey entity) (mode : WriteMode)
    (store : Store) :
    (service.step (.write mode entity) store).2.now = store.now ∧
      (service.step (.write mode entity) store).2.isClosed = store.isClosed ∧
      (service.step (.write mode entity) store).2.madeKeys = store.madeKeys := by
  have ends := write_end service mode entity store
  rw [step_write]
  generalize effect (service.write mode entity) store = ending at ends
  cases ends with
  | undrafted failure undrafted => exact ⟨rfl, rfl, rfl⟩
  | closed draft drafted isClosed => exact ⟨rfl, rfl, rfl⟩
  | absent draft drafted isOpen absent => exact ⟨rfl, rfl, rfl⟩
  | written draft drafted isOpen row made =>
    refine ⟨rfl, rfl, ?_⟩
    simp [replying, commit, (names.key drafted).1]

/-- A write leaves the live row of every key but its own as it is. -/
theorem rowOf?_step_write {service : Service} {store : Store} {mode : WriteMode} {entity : Entity}
    (distinct : DistinctKeys (store.rowsOf entity.collection)) {collection key : String}
    (elsewhere : ∀ draft, service.draft mode entity store.madeKeys = .ok draft →
      ¬ (entity.collection = collection ∧ draft.key.text = key)) :
    (service.step (.write mode entity) store).2.rowOf? collection key = store.rowOf? collection key := by
  have ends := write_end service mode entity store
  rw [step_write]
  generalize effect (service.write mode entity) store = ending at ends
  cases ends with
  | undrafted failure undrafted => rfl
  | closed draft drafted isClosed => rfl
  | absent draft drafted isOpen absent => exact rowOf?_purged ..
  | written draft drafted isOpen row made =>
    refine (rowOf?_commit distinct collection key).trans (if_neg ?_)
    rw [(of_entryIn_eq_some made).1]
    exact elsewhere draft drafted

/-- Two entities do not name one key of one collection. -/
def Apart (service : Service) (first second : Entity) : Prop :=
  first.collection = second.collection → ∀ text, service.keyShown first = some text →
    service.keyShown second ≠ some text

theorem Apart.symm {service : Service} {first second : Entity} (apart : service.Apart first second) :
    service.Apart second first :=
  fun here text shown other => apart here.symm text other shown

/-- Behind a write of another key, a write finds the live row of its key as it was. -/
theorem Apart.rowOf? {service : Service} {store : Store} (sound : Sound service.settings store) {first second : Entity}
    (apart : service.Apart first second) (firstNames : service.NamesKey first) (secondNames : service.NamesKey second)
    (mode : WriteMode) {other : WriteMode} {draft : Draft} {madeKeys : Nat}
    (drafted : service.draft other second madeKeys = .ok draft) :
    (service.step (.write mode first) store).2.rowOf? second.collection draft.key.text =
      store.rowOf? second.collection draft.key.text := by
  refine rowOf?_step_write (sound.rowsOf first.collection).distinct ?_
  rintro firstDraft firstDrafted ⟨here, same⟩
  exact apart here _ (firstNames.key firstDrafted).2 (same ▸ (secondNames.key drafted).2)

/-- A write gives the same behind a write of another key. -/
theorem Apart.answer {service : Service} {store : Store} (sound : Sound service.settings store) {first second : Entity}
    (apart : service.Apart first second) (firstNames : service.NamesKey first) (secondNames : service.NamesKey second)
    (mode other : WriteMode) :
    (service.step (.write other second) (service.step (.write mode first) store).2).1 =
      (service.step (.write other second) store).1 := by
  obtain ⟨_, isClosed, madeKeys⟩ := firstNames.frame mode store
  refine step_write_congr isClosed (by rw [madeKeys]) fun draft drafted => ?_
  exact apart.rowOf? sound firstNames secondNames mode drafted

/-- Behind a write of another key, a write makes the row that it would make without it. -/
theorem Apart.state {service : Service} {store : Store} (sound : Sound service.settings store) {first second : Entity}
    (apart : service.Apart first second) (firstNames : service.NamesKey first) (secondNames : service.NamesKey second)
    (mode : WriteMode) {other : WriteMode} {draft : Draft}
    (drafted : service.draft other second store.madeKeys = .ok draft) (isOpen : store.isClosed = false) :
    let between := (service.step (.write mode first) store).2
    (service.step (.write other second) between).2 = between.put second.collection
      (filed (entryIn other store.now draft (found store second)) (found between second)) := by
  intro between
  obtain ⟨now, isClosed, madeKeys⟩ := firstNames.frame mode store
  have again : service.draft other second between.madeKeys = .ok draft := by
    rw [← drafted]
    exact congrArg (service.draft other second) madeKeys
  have same : entryIn other between.now draft (found between second) =
      entryIn other store.now draft (found store second) := by
    have row : (found between second).find? (fun row => row.key = draft.key.text) =
        (found store second).find? fun row => row.key = draft.key.text :=
      apart.rowOf? sound firstNames secondNames mode drafted
    have sameNow : between.now = store.now := now
    unfold entryIn
    rw [row, sameNow]
  rw [step_write_active again (secondNames.key drafted).1 (isClosed.trans isOpen), same]

/-- The row that a write makes among live rows lives, unless its lifetime is over at once. -/
theorem lives_of_entryIn {mode : WriteMode} {store : Store} {entity : Entity} {draft : Draft} {row : StoredRow}
    (lasting : mode ≠ .insert (some 0)) (made : entryIn mode store.now draft (found store entity) = some row) :
    row.isExpired store.now = false := by
  cases mode with
  | insert lifetime =>
    rw [StoredRow.isExpired, expiry_of_insert made]
    cases lifetime with
    | none => rfl
    | some milliseconds =>
      have positive : milliseconds ≠ 0 := fun zero => lasting (zero ▸ rfl)
      simp only [Option.map_some, Option.any_some, decide_eq_false_iff_not]
      omega
  | update =>
    unfold entryIn at made
    cases present : (found store entity).find? fun old => old.key = draft.key.text with
    | none =>
      rw [present] at made
      cases made
    | some old =>
      rw [present] at made
      cases made
      exact (mem_live.mp (List.mem_of_find?_eq_some present)).2

/-- What two writes in a row leave in a collection, given the rows that they make. -/
theorem rowsOf_filed_filed (store : Store) (first second : Entity) (a b : Option StoredRow) (collection : String) :
    let between := store.put first.collection (filed a (found store first))
    (between.put second.collection (filed b (found between second))).rowsOf collection =
      if second.collection = collection then
        filed b (live (if first.collection = collection then filed a (live (store.rowsOf collection) store.now)
          else store.rowsOf collection) store.now)
      else if first.collection = collection then filed a (live (store.rowsOf collection) store.now)
      else store.rowsOf collection := by
  intro between
  rw [rowsOf_put]
  by_cases there : second.collection = collection
  · subst there
    rw [if_pos rfl, if_pos rfl, found, rowsOf_put, found]
    by_cases here : first.collection = second.collection
    · rw [if_pos here, if_pos here, here]
      rfl
    · rw [if_neg here, if_neg here]
      rfl
  · rw [if_neg there, if_neg there, rowsOf_put, found]
    by_cases here : first.collection = collection
    · rw [if_pos here, if_pos here, here]
    · rw [if_neg here, if_neg here]

/-- An idle write is so behind another write, and both orders leave what the other write leaves. -/
theorem Idle.commutes {service : Service} {store : Store} {mode other : WriteMode} {first second : Entity}
    (idle : service.Idle store mode first) (secondNames : service.NamesKey second) :
    (service.step (.write other second) (service.step (.write mode first) store).2).2 =
      (service.step (.write mode first) (service.step (.write other second) store).2).2 := by
  obtain ⟨_, isClosed, madeKeys⟩ := secondNames.frame other store
  have still : service.Idle (service.step (.write other second) store).2 mode first := by
    rw [Idle, isClosed, madeKeys]
    exact idle
  rw [idle.state, still.state]

/-- Two writes meet in a collection. What either order leaves there is what they make of its live rows. -/
structure Meet (service : Service) (store : Store) (mode other : WriteMode) (first second : Entity)
    (collection : String) (forth back : List StoredRow) (a b : Option StoredRow) : Prop where
  together : first.collection = second.collection
  forth : forth = filed b (live (filed a (live (store.rowsOf collection) store.now)) store.now)
  back : back = filed a (live (filed b (live (store.rowsOf collection) store.now)) store.now)
  firstKey : ∀ row ∈ a, service.keyWritten? collection store.madeKeys (.write mode first) = some row.key
  secondKey : ∀ row ∈ b, service.keyWritten? collection store.madeKeys (.write other second) = some row.key
  firstLives : mode ≠ .insert (some 0) → ∀ row ∈ a, row.isExpired store.now = false
  secondLives : other ≠ .insert (some 0) → ∀ row ∈ b, row.isExpired store.now = false

/-- The row that a write makes in its collection has the key that the write asks for. -/
theorem keyWritten?_of_entryIn {service : Service} {mode : WriteMode} {entity : Entity} {madeKeys now : Nat}
    {draft : Draft} (drafted : service.draft mode entity madeKeys = .ok draft) {rows : List StoredRow}
    {row : StoredRow} (made : entryIn mode now draft rows = some row) :
    service.keyWritten? entity.collection madeKeys (.write mode entity) = some row.key := by
  rw [keyWritten?_of_draft drafted, if_pos rfl, (of_entryIn_eq_some made).1]

/-- Two writes meet in a collection, or leave the same there in either order. -/
theorem meet_or_same {service : Service} {store : Store} (sound : Sound service.settings store) (mode other : WriteMode)
    {first second : Entity} (firstNames : service.NamesKey first) (secondNames : service.NamesKey second)
    (apart : service.Apart first second) (collection : String) :
    let forth := (service.run [.write mode first, .write other second] store).state.rowsOf collection
    let back := (service.run [.write other second, .write mode first] store).state.rowsOf collection
    forth = back ∨ ∃ a b, service.Meet store mode other first second collection forth back a b := by
  intro forth back
  by_cases firstIdle : service.Idle store mode first
  · left
    exact congrArg (Store.rowsOf · collection) (firstIdle.commutes secondNames)
  · by_cases secondIdle : service.Idle store other second
    · left
      exact congrArg (Store.rowsOf · collection) (secondIdle.commutes firstNames).symm
    · obtain ⟨firstDraft, firstDrafted, isOpen⟩ := exists_of_not_idle firstIdle
      obtain ⟨secondDraft, secondDrafted, _⟩ := exists_of_not_idle secondIdle
      have forthRows : forth = _ := congrArg (Store.rowsOf · collection)
        (apart.state sound firstNames secondNames mode secondDrafted isOpen)
      have backRows : back = _ := congrArg (Store.rowsOf · collection)
        (apart.symm.state sound secondNames firstNames other firstDrafted isOpen)
      simp only [step_write_active firstDrafted (firstNames.key firstDrafted).1 isOpen, rowsOf_filed_filed] at forthRows
      simp only [step_write_active secondDrafted (secondNames.key secondDrafted).1 isOpen, rowsOf_filed_filed]
        at backRows
      by_cases here : first.collection = collection
      · by_cases there : second.collection = collection
        · right
          subst here
          refine ⟨_, _, {
            together := there.symm
            forth := by rw [forthRows, if_pos there, if_pos rfl]
            back := by rw [backRows, if_pos rfl, if_pos there]
            firstKey := fun row made => keyWritten?_of_entryIn firstDrafted made
            secondKey := fun row made => there ▸ keyWritten?_of_entryIn secondDrafted made
            firstLives := fun lasting row made => lives_of_entryIn lasting made
            secondLives := fun lasting row made => lives_of_entryIn lasting made }⟩
        · left
          rw [forthRows, backRows, if_neg there, if_pos here, if_pos here, if_neg there]
      · left
        rw [forthRows, backRows, if_neg here, if_neg here]

/-- Two runs of the same two writes, the one in the other order. Each write gives the same, and the stores agree about
the live row of every key and the order of live rows, but for that of two new ones. -/
structure Commute (service : Service) (store : Store) (first second : Operation) (forth back : Run Store) : Prop where
  answers : forth.answers = back.answers.reverse
  now : forth.state.now = back.state.now
  isClosed : forth.state.isClosed = back.state.isClosed
  madeKeys : forth.state.madeKeys = back.state.madeKeys
  rowOf? : ∀ collection key, forth.state.rowOf? collection key = back.state.rowOf? collection key
  live : ∀ collection, SameButNew (live (store.rowsOf collection) store.now)
    (service.keyWritten? collection store.madeKeys first) (service.keyWritten? collection store.madeKeys second)
    (Store.live (forth.state.rowsOf collection) forth.state.now)
    (Store.live (back.state.rowsOf collection) back.state.now)

/-- The stores agree about the rows that are kept, expired ones included, in the same way. -/
def CommuteStored (service : Service) (store : Store) (first second : Operation) (forth back : Store) : Prop :=
  ∀ collection,
    SameButNew (live (store.rowsOf collection) store.now) (service.keyWritten? collection store.madeKeys first)
      (service.keyWritten? collection store.madeKeys second) (forth.rowsOf collection) (back.rowsOf collection) ∧
    ∀ key, (forth.rowsOf collection).find? (fun row => row.key = key) =
      (back.rowsOf collection).find? fun row => row.key = key

/-- The key that a write asks for in a collection is the one that its entity names. -/
theorem NamesKey.of_keyWritten? {service : Service} {entity : Entity} (names : service.NamesKey entity)
    {mode : WriteMode} {madeKeys : Nat} {collection key : String}
    (asked : service.keyWritten? collection madeKeys (.write mode entity) = some key) :
    entity.collection = collection ∧ service.keyShown entity = some key := by
  cases drafted : service.draft mode entity madeKeys with
  | error failure => simp [Service.keyWritten?, drafted, Except.toOption] at asked
  | ok draft =>
    rw [keyWritten?_of_draft drafted] at asked
    split at asked
    · rename_i here
      exact ⟨here, asked ▸ (names.key drafted).2⟩
    · cases asked

/-- Two writes do not ask for one key of one collection. -/
theorem Apart.keyWritten? {service : Service} {first second : Entity} (apart : service.Apart first second)
    (firstNames : service.NamesKey first) (secondNames : service.NamesKey second) {mode other : WriteMode}
    {madeKeys : Nat} {collection : String} (key : String)
    (asked : service.keyWritten? collection madeKeys (.write mode first) = some key) :
    service.keyWritten? collection madeKeys (.write other second) ≠ some key := by
  intro askedToo
  obtain ⟨here, shown⟩ := firstNames.of_keyWritten? asked
  obtain ⟨there, shownToo⟩ := secondNames.of_keyWritten? askedToo
  exact apart (here.trans there.symm) key shown shownToo

namespace Meet

variable {service : Service} {store : Store} {mode other : WriteMode} {first second : Entity} {collection : String}
  {forth back : List StoredRow} {a b : Option StoredRow}

/-- Two writes of different keys do not make rows of one key. -/
theorem apart (meet : service.Meet store mode other first second collection forth back a b)
    (different : ∀ key, service.keyWritten? collection store.madeKeys (.write mode first) = some key →
      service.keyWritten? collection store.madeKeys (.write other second) ≠ some key) :
    ∀ x ∈ a, ∀ y ∈ b, x.key ≠ y.key := by
  intro x isFirst y isSecond same
  exact different x.key (meet.firstKey x isFirst) (same ▸ meet.secondKey y isSecond)

theorem imp (meet : service.Meet store mode other first second collection forth back a b)
    {before rows others : List StoredRow}
    (alike : SameButNew before (a.map StoredRow.key) (b.map StoredRow.key) rows others) :
    SameButNew before (service.keyWritten? collection store.madeKeys (.write mode first))
      (service.keyWritten? collection store.madeKeys (.write other second)) rows others := by
  refine alike.imp ?_ ?_
  · intro key given
    obtain ⟨row, made, rfl⟩ := Option.map_eq_some_iff.mp given
    exact meet.firstKey row made
  · intro key given
    obtain ⟨row, made, rfl⟩ := Option.map_eq_some_iff.mp given
    exact meet.secondKey row made

/-- Where two writes meet, the live rows are the same but for the order of two new ones. -/
theorem live (meet : service.Meet store mode other first second collection forth back a b)
    (different : ∀ key, service.keyWritten? collection store.madeKeys (.write mode first) = some key →
      service.keyWritten? collection store.madeKeys (.write other second) ≠ some key) :
    SameButNew (live (store.rowsOf collection) store.now)
      (service.keyWritten? collection store.madeKeys (.write mode first))
      (service.keyWritten? collection store.madeKeys (.write other second)) (Store.live forth store.now)
      (Store.live back store.now) := by
  have apart := meet.apart different
  have lives (row : StoredRow) (member : row ∈ Store.live (store.rowsOf collection) store.now) :
      row.isExpired store.now = false :=
    (mem_live.mp member).2
  rw [meet.forth, meet.back, live_filed_live apart lives,
    live_filed_live (fun y isSecond x isFirst => (apart x isFirst y isSecond).symm) lives]
  exact meet.imp ((filed_filed apart _).live store.now)

/-- Where two writes meet whose rows outlive their writes, all rows are the same but for the order of two new ones. -/
theorem stored (meet : service.Meet store mode other first second collection forth back a b)
    (different : ∀ key, service.keyWritten? collection store.madeKeys (.write mode first) = some key →
      service.keyWritten? collection store.madeKeys (.write other second) ≠ some key)
    (lasting : mode ≠ .insert (some 0)) (lastingToo : other ≠ .insert (some 0)) :
    SameButNew (Store.live (store.rowsOf collection) store.now)
      (service.keyWritten? collection store.madeKeys (.write mode first))
      (service.keyWritten? collection store.madeKeys (.write other second)) forth back := by
  have still {made : Option StoredRow} (lives : ∀ row ∈ made, row.isExpired store.now = false) :
      Store.live (filed made (Store.live (store.rowsOf collection) store.now)) store.now =
        filed made (Store.live (store.rowsOf collection) store.now) := by
    refine live_eq_self fun row member => ?_
    rcases mem_filed member with before | new
    · exact (mem_live.mp before).2
    · exact lives row new
  rw [meet.forth, meet.back, still (meet.firstLives lasting), still (meet.secondLives lastingToo)]
  exact meet.imp (filed_filed (meet.apart different) _)

end Meet

/-- Writes of different keys commute, but for the order of two new rows of one collection, and for kept rows without a
time to live, which a write behind them clears away. -/
theorem independent_writes_commute (service : Service) (operations : List Operation) (start : Nat)
    (mode other : WriteMode) {first second : Entity} (firstNames : service.NamesKey first)
    (secondNames : service.NamesKey second) (apart : service.Apart first second) :
    let store := (service.run operations { now := start }).state
    let forth := service.run [.write mode first, .write other second] store
    let back := service.run [.write other second, .write mode first] store
    service.Commute store (.write mode first) (.write other second) forth back ∧
      ((first.collection = second.collection → mode ≠ .insert (some 0) ∧ other ≠ .insert (some 0)) →
        service.CommuteStored store (.write mode first) (.write other second) forth.state back.state) := by
  intro store forth back
  have sound : Sound service.settings store := run_sound (.empty service.settings start) operations
  obtain ⟨firstNow, firstClosed, firstMade⟩ := firstNames.frame mode store
  obtain ⟨secondNow, secondClosed, secondMade⟩ := secondNames.frame other store
  obtain ⟨forthNow, forthClosed, forthMade⟩ := secondNames.frame other (service.step (.write mode first) store).2
  obtain ⟨backNow, backClosed, backMade⟩ := firstNames.frame mode (service.step (.write other second) store).2
  have sameNow : forth.state.now = store.now := forthNow.trans firstNow
  have backSameNow : back.state.now = store.now := backNow.trans secondNow
  have different (collection key : String)
      (asked : service.keyWritten? collection store.madeKeys (.write mode first) = some key) :
      service.keyWritten? collection store.madeKeys (.write other second) ≠ some key :=
    apart.keyWritten? firstNames secondNames key asked
  have meets := meet_or_same sound mode other firstNames secondNames apart
  have lives (collection : String) :
      SameButNew (live (store.rowsOf collection) store.now)
        (service.keyWritten? collection store.madeKeys (.write mode first))
        (service.keyWritten? collection store.madeKeys (.write other second))
        (live (forth.state.rowsOf collection) forth.state.now)
        (live (back.state.rowsOf collection) back.state.now) := by
    rw [sameNow, backSameNow]
    rcases meets collection with same | ⟨a, b, meet⟩
    · rw [show forth.state.rowsOf collection = back.state.rowsOf collection from same]
      exact .same _
    · exact meet.live (different collection)
  constructor
  · exact {
      answers := by
        have secondSame := apart.answer sound firstNames secondNames mode other
        have firstSame := apart.symm.answer sound secondNames firstNames other mode
        simp only [forth, back, run, runSteps, secondSame, firstSame, List.reverse_cons, List.reverse_nil,
          List.nil_append, List.cons_append]
      now := sameNow.trans backSameNow.symm
      isClosed := (forthClosed.trans firstClosed).trans (backClosed.trans secondClosed).symm
      madeKeys := (forthMade.trans firstMade).trans (backMade.trans secondMade).symm
      rowOf? := fun collection key => (lives collection).find? (different collection) key
      live := lives }
  · intro lasting collection
    have alike : SameButNew (live (store.rowsOf collection) store.now)
        (service.keyWritten? collection store.madeKeys (.write mode first))
        (service.keyWritten? collection store.madeKeys (.write other second)) (forth.state.rowsOf collection)
        (back.state.rowsOf collection) := by
      rcases meets collection with same | ⟨a, b, meet⟩
      · rw [show forth.state.rowsOf collection = back.state.rowsOf collection from same]
        exact .same _
      · obtain ⟨firstLasting, secondLasting⟩ := lasting meet.together
        exact meet.stored (different collection) firstLasting secondLasting
    exact ⟨alike, alike.find? (different collection)⟩

/-- Two new rows, written when an earlier one has expired: in either order each is the same, and the one that is
written first comes first. -/
theorem two_inserts_commute :
    let service : Service := { settings := {}, converter := {} }
    let entity (key : String) : Entity := ⟨"c", [⟨"_id", .text key⟩, ⟨"n", .text "x"⟩]⟩
    let first : Operation := .write (.insert none) (entity "b")
    let second : Operation := .write (.insert (some 4)) (entity "a")
    let store := (service.run [.write (.insert (some 5)) (entity "d"), .elapse 5] {}).state
    let forth := service.run [first, second] store
    let back := service.run [second, first] store
    service.Commute store first second forth back ∧
      service.CommuteStored store first second forth.state back.state ∧
      (forth.state.rowsOf "c").map StoredRow.key = ["b", "a"] ∧
      (back.state.rowsOf "c").map StoredRow.key = ["a", "b"] := by
  intro service entity first second store forth back
  have names (key : String) : service.NamesKey (entity key) := ⟨⟨"_id", .text key⟩, rfl, rfl⟩
  have apart : service.Apart (entity "b") (entity "a") := by
    intro _ text shown other
    have isB : some "b" = some text := shown
    have isA : some "a" = some text := other
    exact absurd (isB.trans isA.symm) (by decide)
  obtain ⟨commute, stored⟩ := independent_writes_commute service
    [.write (.insert (some 5)) (entity "d"), .elapse 5] 0 (.insert none) (.insert (some 4)) (names "b") (names "a")
    apart
  refine ⟨commute, stored fun _ => ⟨by decide, by decide⟩, ?_, ?_⟩
  · simp only [forth, first, second, store, entity, service]
    rfl
  · simp only [back, first, second, store, entity, service]
    rfl

/-- A row without time to live is cleared away by a write of another key behind it, and kept by one before it. -/
theorem timeless_row_depends_on_order :
    let service : Service := { settings := {}, converter := {} }
    let entity (key : String) : Entity := ⟨"c", [⟨"_id", .text key⟩]⟩
    let first : Operation := .write (.insert (some 0)) (entity "a")
    let second : Operation := .write (.insert none) (entity "b")
    (∀ key, service.NamesKey (entity key)) ∧ service.Apart (entity "a") (entity "b") ∧
      ((service.run [first, second] {}).state.rowsOf "c").map StoredRow.key = ["b"] ∧
      ((service.run [second, first] {}).state.rowsOf "c").map StoredRow.key = ["b", "a"] := by
  intro service entity first second
  refine ⟨fun key => ⟨⟨"_id", .text key⟩, rfl, rfl⟩, ?_, ?_, ?_⟩
  · intro _ text shown other
    have isA : some "a" = some text := shown
    have isB : some "b" = some text := other
    exact absurd (isA.trans isB.symm) (by decide)
  · simp only [first, second, entity, service]
    rfl
  · simp only [first, second, entity, service]
    rfl

end Service

end Polystore.Store
