import Polystore.ConnectUrl
import Polystore.Executor

/-!
The settings of a store in memory, read from its connection url. Every parameter may come from the
environment instead, and none may be left over.
-/
namespace Polystore

/-- How the rows of a store are addressed. -/
inductive Addressing where
  /-- By any condition. -/
  | document
  /-- By their keys only. -/
  | keyed
deriving DecidableEq, Repr

def Addressing.label : Addressing → String
  | .document => "Document"
  | .keyed => "Keyed"

def Addressing.ofName (name : String) : Except Failure Addressing :=
  if name = "document" then .ok .document
  else if name = "keyed" then .ok .keyed
  else .error (unknownName "mode" name "`document` or `keyed`")

namespace Store

/-- The settings of a store. -/
structure Settings where
  name : String := "default"
  /-- How many rows make a page, when a query does not say. -/
  fetchSize : Nat := 100
  /-- The field of the key. -/
  key : String := "_id"
  /-- The field of the revision. -/
  revision : String := "_rev"
  addressing : Addressing := .document
  paging : PagingMode := .pagingState
  converter : ConverterSettings := {}

/-- The name of the driver, which is also that of the back end. -/
def driverName : String := "memory"

namespace Settings

/-- How many rows make a page, none of them being an error. -/
def takeFetchSize (environment : Environment) (default : Nat) : Action Failure Parameters Nat := do
  match ← Parameters.takeWord environment .u32 "fetch_size" with
  | none => return default
  | some size =>
    if size.val = 0 then Action.fail (.ofFault (.configuration "fetch_size must be greater than zero"))
    return size.val.toNat

/-- Takes all settings but the name from parameters, which must hold nothing else. -/
def take (environment : Environment) (name : String) : Action Failure Parameters Settings := do
  let defaults : Settings := {}
  let fetchSize ← takeFetchSize environment defaults.fetchSize
  let key ← Parameters.take environment "key"
  let revision ← Parameters.take environment "revision"
  let addressing ← Parameters.takeNamed environment "mode" Addressing.ofName defaults.addressing
  let paging ← Parameters.takeNamed environment "paging" PagingMode.ofName defaults.paging
  let converter ← ConverterSettings.take environment
  let key := key.getD defaults.key
  let revision := revision.getD defaults.revision
  if key = revision then
    Action.fail (.ofFault (.configuration
      ("the key and the revision cannot share the field " ++ Text.quotedExcerpt key)))
  Parameters.finish (← Action.state)
  return ⟨name, fetchSize, key, revision, addressing, paging, converter⟩

def ofUrl {σ : Type} (environment : Environment) (text : String) : Action Failure σ Settings := do
  let connect ← ConnectUrl.parse driverName text
  (take environment (connect.url.host?.getD ({} : Settings).name)).alone connect.parameters

end Settings

end Store

end Polystore
