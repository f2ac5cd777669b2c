import Polystore.Proofs.Number.StrictInteger
import Polystore.Proofs.Url.Parameters
import Polystore.Store.Settings

/-!
The settings that a connection url describes. What is given for a name, in the url or else in the environment, either
means one value of its setting or is an error; nothing but the seven names may be given in the url, and none twice. So
the settings depend on what is given under each name, and on neither the order nor the place in which it is given.
-/
namespace Polystore

open Polystore.Action Parameters

/-- The kind of a failure is that a url or a parameter is malformed. -/
def Failure.Misconfigured (failure : Failure) : Prop := ∃ detail, failure.fault? = some (.configuration detail)

theorem misconfigured_ofFault (detail : String) : (Failure.ofFault (.configuration detail)).Misconfigured :=
  ⟨detail, rfl⟩

namespace Store.Settings

/-! ### Settings that are one of some names -/

section Tables

variable {α : Type} {ofName : String → Except Failure α} {table : List (Named α)}

/-- What a setting is, given the names of its values. -/
def Means (table : List (Named α)) (default : α) : Option String → α → Prop
  | none, value => value = default
  | some text, value => ⟨text, value⟩ ∈ table

/-- A reader that knows the names of a table, and says of any other text that it is malformed. -/
structure Knows (ofName : String → Except Failure α) (table : List (Named α)) : Prop where
  gives : ∀ text value, ofName text = .ok value ↔ ⟨text, value⟩ ∈ table
  refuses : ∀ text failure, ofName text = .error failure → failure.Misconfigured

theorem Knows.nil {failure : String → Failure} (each : ∀ text, (failure text).Misconfigured) :
    Knows (fun text => (.error (failure text) : Except Failure α)) [] where
  gives := fun text value => by simp
  refuses := fun text other same => Except.error.inj same ▸ each text

theorem Knows.cons {name : String} (value : α) (known : Knows ofName table) (fresh : name ∉ Named.names table) :
    Knows (fun text => if text = name then .ok value else ofName text) (⟨name, value⟩ :: table) where
  gives := fun text other => by
    rw [List.mem_cons, Named.mk.injEq]
    by_cases here : text = name
    · subst here
      have absent : (⟨text, other⟩ : Named α) ∉ table := fun member => fresh (List.mem_map_of_mem member)
      simp [absent, eq_comm]
    · simp only [here, if_false, false_and, false_or]
      exact known.gives text other
  refuses := fun text failure fails => by
    split at fails
    · cases fails
    · exact known.refuses text failure fails

theorem readNamed_eq_ok_iff (known : Knows ofName table) {default value : α} {given : Option String} :
    readNamed ofName default given = .ok value ↔ Means table default given value := by
  cases given with
  | none =>
    rw [readNamed, Except.ok.injEq]
    exact eq_comm
  | some text => exact known.gives text value

theorem misconfigured_of_readNamed (known : Knows ofName table) {default : α} {given : Option String}
    {failure : Failure} (fails : readNamed ofName default given = .error failure) : failure.Misconfigured := by
  cases given with
  | none => cases fails
  | some text => exact known.refuses text failure fails

theorem exists_means_iff {default : α} {given : Option String} :
    (∃ value, Means table default given value) ↔ ∀ text, given = some text → text ∈ Named.names table := by
  cases given with
  | none => exact ⟨fun _ _ none => absurd none nofun, fun _ => ⟨default, rfl⟩⟩
  | some text =>
    constructor
    · rintro ⟨value, member⟩ _ ⟨⟩
      exact List.mem_map_of_mem member
    · intro known
      obtain ⟨⟨_, value⟩, member, rfl⟩ := List.mem_map.mp (known text rfl)
      exact ⟨value, member⟩

end Tables

def addressings : List (Named Addressing) := [⟨"document", .document⟩, ⟨"keyed", .keyed⟩]

def pagingModes : List (Named PagingMode) := [⟨"paging-state", .pagingState⟩, ⟨"default", .drain⟩]

def policies : List (Named Policy) :=
  [⟨"pass-through", .passThrough⟩, ⟨"passthrough", .passThrough⟩, ⟨"strict", .strict⟩]

def layouts : List (Named Layout) := [⟨"singleton", .singleton⟩, ⟨"embedded", .embedded⟩]

theorem misconfigured_unknownName (setting name expected : String) :
    (unknownName setting name expected).Misconfigured :=
  misconfigured_ofFault _

theorem knows_addressings : Knows Addressing.ofName addressings :=
  ((Knows.nil fun text => misconfigured_unknownName _ text _).cons _ (by decide)).cons _ (by decide)

theorem knows_pagingModes : Knows PagingMode.ofName pagingModes :=
  ((Knows.nil fun text => misconfigured_unknownName _ text _).cons _ (by decide)).cons _ (by decide)

theorem knows_layouts : Knows Layout.ofName layouts :=
  ((Knows.nil fun text => misconfigured_unknownName _ text _).cons _ (by decide)).cons _ (by decide)

theorem knows_policies : Knows Policy.ofName policies := by
  -- One policy has two names, which are compared together.
  have each : Policy.ofName = fun text =>
      if text = "pass-through" then .ok .passThrough
      else if text = "passthrough" then .ok .passThrough
      else if text = "strict" then .ok .strict
      else .error (unknownName "conversion policy" text "`pass-through` or `strict`") := by
    funext text
    by_cases first : text = "pass-through" <;> by_cases second : text = "passthrough" <;>
      simp [Policy.ofName, first, second]
  rw [each]
  exact (((Knows.nil fun text => misconfigured_unknownName _ text _).cons _ (by decide)).cons _ (by decide)).cons _
    (by decide)

/-! ### The size of a page -/

/-- What the size of a page is, given a text for it. -/
def Sized (default : Nat) : Option String → Nat → Prop
  | none, size => size = default
  | some text, size => IntegerText.Counts text.toList size ∧ 0 < size ∧ size ≤ 4294967295

/-- What a size of a page is read as. -/
def readFetchSize (default : Nat) : Option String → Except Failure Nat
  | none => .ok default
  | some text =>
    match (IntegerText.parse .u32 text).mapError IntegerText.Error.message with
    | .ok size =>
      if size.val = 0 then .error (.ofFault (.configuration "fetch_size must be greater than zero"))
      else .ok size.val.toNat
    | .error reason => .error (invalidValue "fetch_size" text reason)

theorem effect_takeFetchSize (environment : Environment) (default : Nat) (parameters : Parameters) :
    effect (takeFetchSize environment default) parameters =
      (readFetchSize default (lookUp environment parameters "fetch_size"), drop "fetch_size" parameters) := by
  rw [takeFetchSize, takeWord, takeRead, effect_bind, effect_bind, effect_take]
  cases lookUp environment parameters "fetch_size" with
  | none => rfl
  | some text =>
    simp only [readFetchSize]
    cases (IntegerText.parse .u32 text).mapError IntegerText.Error.message with
    | error reason => rfl
    | ok size =>
      simp only [effect_pure]
      split <;> rfl

theorem readFetchSize_eq_ok_iff {default size : Nat} {given : Option String} :
    readFetchSize default given = .ok size ↔ Sized default given size := by
  cases given with
  | none =>
    rw [readFetchSize, Except.ok.injEq]
    exact eq_comm
  | some text =>
    have reads (word : Word .u32) : IntegerText.parse .u32 text = .ok word ↔
        ∃ number : Nat, IntegerText.Counts text.toList number ∧ word.val = number := IntegerText.parse_eq_ok_iff rfl
    rw [readFetchSize, Sized]
    constructor
    · intro gives
      cases parsed : IntegerText.parse .u32 text with
      | error error => rw [parsed] at gives; cases gives
      | ok word =>
        obtain ⟨number, counts, same⟩ := (reads word).mp parsed
        simp only [parsed, Except.mapError_ok] at gives
        split at gives
        · cases gives
        · rename_i some
          have fits : word.val ≤ 4294967295 := word.fits.2
          have exactly : number = size := by
            have counted := Except.ok.inj gives
            omega
          subst exactly
          exact ⟨counts, by omega, by omega⟩
    · rintro ⟨counts, positive, fits⟩
      have parsed := (reads ⟨size, Int.natCast_nonneg size, Int.ofNat_le.mpr fits⟩).mpr ⟨size, counts, rfl⟩
      simp only [parsed, Except.mapError_ok, Int.toNat_natCast]
      rw [if_neg (by omega)]

theorem misconfigured_of_readFetchSize {default : Nat} {given : Option String} {failure : Failure}
    (fails : readFetchSize default given = .error failure) : failure.Misconfigured := by
  unfold readFetchSize at fails
  split at fails
  · cases fails
  · split at fails
    · split at fails
      · exact Except.error.inj fails ▸ misconfigured_ofFault _
      · cases fails
    · exact Except.error.inj fails ▸ misconfigured_ofFault _

/-! ### All settings -/

/-- The parameters of a connection url. -/
def settingNames : List String := ["fetch_size", "key", "revision", "mode", "paging", "policy", "layout"]

/-- The settings that are meant by what is given under their names. -/
structure Describes (given : String → Option String) (settings : Settings) : Prop where
  fetchSize : Sized 100 (given "fetch_size") settings.fetchSize
  key : settings.key = (given "key").getD "_id"
  revision : settings.revision = (given "revision").getD "_rev"
  apart : settings.key ≠ settings.revision
  addressing : Means addressings .document (given "mode") settings.addressing
  paging : Means pagingModes .pagingState (given "paging") settings.paging
  policy : Means policies .passThrough (given "policy") settings.converter.policy
  layout : Means layouts .singleton (given "layout") settings.converter.layout

/-- Each text that is given is one that its setting takes, and the key and the revision have different fields. -/
structure Valid (given : String → Option String) : Prop where
  fetchSize : ∀ text, given "fetch_size" = some text →
    ∃ size, IntegerText.Counts text.toList size ∧ 0 < size ∧ size ≤ 4294967295
  addressing : ∀ text, given "mode" = some text → text ∈ ["document", "keyed"]
  paging : ∀ text, given "paging" = some text → text ∈ ["paging-state", "default"]
  policy : ∀ text, given "policy" = some text → text ∈ ["pass-through", "passthrough", "strict"]
  layout : ∀ text, given "layout" = some text → text ∈ ["singleton", "embedded"]
  apart : (given "key").getD "_id" ≠ (given "revision").getD "_rev"

theorem exists_sized_iff {default : Nat} {given : Option String} : (∃ size, Sized default given size) ↔
    ∀ text, given = some text → ∃ size, IntegerText.Counts text.toList size ∧ 0 < size ∧ size ≤ 4294967295 := by
  cases given with
  | none => exact ⟨fun _ _ none => absurd none nofun, fun _ => ⟨default, rfl⟩⟩
  | some text => exact ⟨fun sized _ same => Option.some.inj same ▸ sized, fun each => each text rfl⟩

/-- What is given is valid just when it describes some settings. -/
theorem valid_iff (name : String) {given : String → Option String} :
    Valid given ↔ ∃ settings, settings.name = name ∧ Describes given settings := by
  constructor
  · intro valid
    obtain ⟨fetchSize, sized⟩ := exists_sized_iff.mpr valid.fetchSize
    obtain ⟨addressing, addresses⟩ : ∃ value, Means addressings .document (given "mode") value :=
      exists_means_iff.mpr valid.addressing
    obtain ⟨paging, pages⟩ : ∃ value, Means pagingModes .pagingState (given "paging") value :=
      exists_means_iff.mpr valid.paging
    obtain ⟨policy, converts⟩ : ∃ value, Means policies .passThrough (given "policy") value :=
      exists_means_iff.mpr valid.policy
    obtain ⟨layout, lays⟩ : ∃ value, Means layouts .singleton (given "layout") value :=
      exists_means_iff.mpr valid.layout
    exact ⟨⟨name, fetchSize, _, _, addressing, paging, ⟨policy, layout⟩⟩, rfl,
      ⟨sized, rfl, rfl, valid.apart, addresses, pages, converts, lays⟩⟩
  · rintro ⟨settings, -, described⟩
    exact {
      fetchSize := exists_sized_iff.mp ⟨_, described.fetchSize⟩
      addressing := exists_means_iff.mp ⟨_, described.addressing⟩
      paging := exists_means_iff.mp ⟨_, described.paging⟩
      policy := exists_means_iff.mp ⟨_, described.policy⟩
      layout := exists_means_iff.mp ⟨_, described.layout⟩
      apart := described.key ▸ described.revision ▸ described.apart }

/-- The failure of settings with one field for the key and the revision. -/
def sharedField (field : String) : Failure :=
  .ofFault (.configuration ("the key and the revision cannot share the field " ++ Text.quotedExcerpt field))

/-- The settings of a name, read from what is given. -/
def readGiven (name : String) (given : String → Option String) : Except Failure Settings := do
  let fetchSize ← readFetchSize 100 (given "fetch_size")
  let addressing ← readNamed Addressing.ofName .document (given "mode")
  let paging ← readNamed PagingMode.ofName .pagingState (given "paging")
  let policy ← readNamed Policy.ofName .passThrough (given "policy")
  let layout ← readNamed Layout.ofName .singleton (given "layout")
  if (given "key").getD "_id" = (given "revision").getD "_rev" then .error (sharedField ((given "key").getD "_id"))
  else
    .ok ⟨name, fetchSize, (given "key").getD "_id", (given "revision").getD "_rev", addressing, paging,
      ⟨policy, layout⟩⟩

theorem readGiven_eq_ok_iff {name : String} {given : String → Option String} {settings : Settings} :
    readGiven name given = .ok settings ↔ settings.name = name ∧ Describes given settings := by
  rw [readGiven]
  constructor
  · intro gives
    obtain ⟨fetchSize, sized, gives⟩ := Except.of_bind_eq_ok gives
    obtain ⟨addressing, addresses, gives⟩ := Except.of_bind_eq_ok gives
    obtain ⟨paging, pages, gives⟩ := Except.of_bind_eq_ok gives
    obtain ⟨policy, converts, gives⟩ := Except.of_bind_eq_ok gives
    obtain ⟨layout, lays, gives⟩ := Except.of_bind_eq_ok gives
    split at gives
    · cases gives
    · rename_i apart
      cases gives
      exact ⟨rfl, {
        fetchSize := readFetchSize_eq_ok_iff.mp sized
        key := rfl
        revision := rfl
        apart := apart
        addressing := (readNamed_eq_ok_iff knows_addressings).mp addresses
        paging := (readNamed_eq_ok_iff knows_pagingModes).mp pages
        policy := (readNamed_eq_ok_iff knows_policies).mp converts
        layout := (readNamed_eq_ok_iff knows_layouts).mp lays }⟩
  · rintro ⟨rfl, described⟩
    rw [readFetchSize_eq_ok_iff.mpr described.fetchSize,
      (readNamed_eq_ok_iff knows_addressings).mpr described.addressing,
      (readNamed_eq_ok_iff knows_pagingModes).mpr described.paging,
      (readNamed_eq_ok_iff knows_policies).mpr described.policy,
      (readNamed_eq_ok_iff knows_layouts).mpr described.layout]
    simp only [Except.ok_bind, ← described.key, ← described.revision, if_neg described.apart]

theorem misconfigured_of_readGiven {name : String} {given : String → Option String} {failure : Failure}
    (fails : readGiven name given = .error failure) : failure.Misconfigured := by
  rw [readGiven] at fails
  rcases Except.of_bind_eq_error fails with fails | ⟨fetchSize, -, fails⟩
  · exact misconfigured_of_readFetchSize fails
  rcases Except.of_bind_eq_error fails with fails | ⟨addressing, -, fails⟩
  · exact misconfigured_of_readNamed knows_addressings fails
  rcases Except.of_bind_eq_error fails with fails | ⟨paging, -, fails⟩
  · exact misconfigured_of_readNamed knows_pagingModes fails
  rcases Except.of_bind_eq_error fails with fails | ⟨policy, -, fails⟩
  · exact misconfigured_of_readNamed knows_policies fails
  rcases Except.of_bind_eq_error fails with fails | ⟨layout, -, fails⟩
  · exact misconfigured_of_readNamed knows_layouts fails
  split at fails
  · exact Except.error.inj fails ▸ misconfigured_ofFault _
  · cases fails

/-- What is left when a computation has been run that leaves nothing over. -/
def requireNone (left : Parameters) : Except Failure Unit :=
  (effect (finish left : Action Failure Unit Unit) ()).1

theorem requireNone_eq_ok_iff {left : Parameters} : requireNone left = .ok () ↔ left = [] := by
  cases left with
  | nil => exact ⟨fun _ => rfl, fun _ => rfl⟩
  | cons item rest => exact ⟨nofun, nofun⟩

/-- The settings are what is given under their names, if nothing else is given in the url. -/
theorem result_take (environment : Environment) (name : String) (parameters : Parameters) :
    (effect (take environment name) parameters).1 =
      readGiven name (lookUp environment parameters) >>= fun settings =>
        requireNone (leftOver settingNames parameters) >>= fun _ => .ok settings := by
  have finished (left : Parameters) : effect (finish left) left = (requireNone left, left) := by cases left <;> rfl
  simp (disch := decide) only [take, ConverterSettings.take, effect_bind_assoc, result_bind (effect_takeFetchSize ..),
    result_bind (effect_take ..), result_bind (effect_takeNamed ..), result_bind (effect_pure ..), lookUp_drop,
    Except.ok_bind, readGiven, bind_assoc]
  refine bind_congr fun fetchSize => bind_congr fun addressing => bind_congr fun paging => bind_congr fun policy =>
    bind_congr fun layout => ?_
  split
  · rfl
  · simp only [result_bind (effect_state ..), result_bind (finished _), Except.ok_bind, effect_pure]
    rfl

theorem misconfigured_of_requireNone {left : Parameters} {failure : Failure}
    (fails : requireNone left = .error failure) : failure.Misconfigured := by
  cases left with
  | nil => cases fails
  | cons item rest => exact Except.error.inj fails ▸ misconfigured_ofFault _

section Results

variable {environment : Environment} {name : String} {parameters permuted : Parameters}

theorem result_take_eq_ok_iff {settings : Settings} : (effect (take environment name) parameters).1 = .ok settings ↔
    Among settingNames parameters ∧ settings.name = name ∧ Describes (lookUp environment parameters) settings := by
  rw [result_take, ← leftOver_eq_nil_iff (by decide), ← requireNone_eq_ok_iff, ← readGiven_eq_ok_iff]
  constructor
  · intro gives
    obtain ⟨given, reads, gives⟩ := Except.of_bind_eq_ok gives
    obtain ⟨_, nothing, gives⟩ := Except.of_bind_eq_ok gives
    exact ⟨nothing, Except.ok.inj gives ▸ reads⟩
  · rintro ⟨nothing, reads⟩
    rw [reads, nothing]
    rfl

theorem misconfigured_of_take {failure : Failure}
    (fails : (effect (take environment name) parameters).1 = .error failure) : failure.Misconfigured := by
  rw [result_take] at fails
  rcases Except.of_bind_eq_error fails with fails | ⟨settings, -, fails⟩
  · exact misconfigured_of_readGiven fails
  rcases Except.of_bind_eq_error fails with fails | ⟨_, -, fails⟩
  · exact misconfigured_of_requireNone fails
  · cases fails

/-- Whatever the order of the parameters, they give the same settings. -/
theorem result_take_of_perm (reordered : permuted.Perm parameters) {settings : Settings} :
    (effect (take environment name) permuted).1 = .ok settings ↔
      (effect (take environment name) parameters).1 = .ok settings := by
  rw [result_take_eq_ok_iff, result_take_eq_ok_iff, Among.perm reordered]
  refine and_congr_right fun among => ?_
  rw [funext (lookUp_of_perm environment reordered among.once)]

end Results

theorem result_ofUrl {σ : Type} (environment : Environment) (state : σ) {text : String} {connect : ConnectUrl}
    (parsed : (effect (ConnectUrl.parse driverName text) state).1 = .ok connect) :
    (effect (ofUrl environment text) state).1 =
      (effect (take environment (connect.url.host?.getD "default")) connect.parameters).1 := by
  have runs : effect (ConnectUrl.parse driverName text) state = (.ok connect, _) := Prod.ext parsed rfl
  rw [ofUrl, result_bind runs, Except.ok_bind, effect_alone]

/-- A connection url gives settings just when its parameters are known, given once and valid, and then they are what
is given, in whatever order. -/
theorem settings_are_what_is_given {σ : Type} (environment : Environment) (state : σ) {text : String}
    {connect : ConnectUrl} (parsed : (effect (ConnectUrl.parse driverName text) state).1 = .ok connect) :
    ((∃ settings, (effect (ofUrl environment text) state).1 = .ok settings) ↔
      Among settingNames connect.parameters ∧ Valid (lookUp environment connect.parameters)) ∧
    (∀ failure, (effect (ofUrl environment text) state).1 = .error failure → failure.Misconfigured) ∧
    (∀ settings, (effect (ofUrl environment text) state).1 = .ok settings →
      Describes (lookUp environment connect.parameters) settings ∧
      ∀ item ∈ connect.parameters, lookUp environment connect.parameters item.name = some item.value) ∧
    ∀ (other : String) (permuted : ConnectUrl), (effect (ConnectUrl.parse driverName other) state).1 = .ok permuted →
      permuted.url.host? = connect.url.host? → permuted.parameters.Perm connect.parameters →
      (∃ settings, (effect (ofUrl environment text) state).1 = .ok settings ∧
        (effect (ofUrl environment other) state).1 = .ok settings) ∨
      ∃ failure another, (effect (ofUrl environment text) state).1 = .error failure ∧
        (effect (ofUrl environment other) state).1 = .error another := by
  rw [result_ofUrl environment state parsed]
  refine ⟨?_, fun failure => misconfigured_of_take, ?_, ?_⟩
  · rw [valid_iff (connect.url.host?.getD "default"), ← exists_and_left]
    exact exists_congr fun settings => result_take_eq_ok_iff
  · intro settings gives
    obtain ⟨among, -, described⟩ := result_take_eq_ok_iff.mp gives
    refine ⟨described, fun item member => ?_⟩
    rw [lookUp, Named.find?_of_mem among.once member, Option.some_or]
  · intro other permuted otherParsed host reordered
    rw [result_ofUrl environment state otherParsed, host]
    have same (settings : Settings) :
        (effect (take environment (connect.url.host?.getD "default")) permuted.parameters).1 = .ok settings ↔
          (effect (take environment (connect.url.host?.getD "default")) connect.parameters).1 = .ok settings :=
      result_take_of_perm reordered
    cases here : (effect (take environment (connect.url.host?.getD "default")) connect.parameters).1 with
    | ok settings => exact .inl ⟨settings, rfl, (same settings).mpr here⟩
    | error failure =>
      cases there : (effect (take environment (connect.url.host?.getD "default")) permuted.parameters).1 with
      | ok settings => cases here.symm.trans ((same settings).mp there)
      | error another => exact .inr ⟨failure, another, rfl, rfl⟩

/-- Two settings are given in a url and one in the environment. -/
theorem rows_url_gives_settings : ∃ settings : Settings,
    (effect (ofUrl (fun name => if name = "BURROW_KEY" then some "id" else none)
      "memory://rows?paging=default&fetch_size=7") ()).1 = .ok settings := by
  have parameters : (effect (ConnectUrl.parse driverName "memory://rows?paging=default&fetch_size=7")
      ()).1.toOption.map ConnectUrl.parameters = some [⟨"paging", "default"⟩, ⟨"fetch_size", "7"⟩] := by
    decide +kernel
  cases parsed : (effect (ConnectUrl.parse driverName "memory://rows?paging=default&fetch_size=7") ()).1 with
  | error failure =>
    rw [parsed] at parameters
    cases parameters
  | ok connect =>
    rw [parsed] at parameters
    have given : connect.parameters = [⟨"paging", "default"⟩, ⟨"fetch_size", "7"⟩] := Option.some.inj parameters
    refine (settings_are_what_is_given _ () parsed).1.mpr ?_
    rw [given]
    refine ⟨⟨by simp [Named.Distinct, Named.names], by decide⟩, ?_, nofun, ?_, nofun, nofun, by decide +kernel⟩
    · rintro _ ⟨⟩
      exact ⟨7, .intro (.inl rfl) (by decide) (List.all_eq_true.mp (by decide)), by decide, by decide⟩
    · rintro _ ⟨⟩
      decide

end Store.Settings

end Polystore
