import Polystore.Action
import Polystore.Named
import Polystore.Number.IntegerText
import Polystore.Text.Percent
import Polystore.Text.Split

/-!
Parameters of urls. They are taken by name, the first of a name first, and a variable of the environment
stands in for a parameter that is not there. What nobody took is an error in the end.
-/
namespace Polystore

/-- The parameters that are left, in the order of the url. -/
abbrev Parameters := List (Named String)

abbrev Environment := String → Option String

namespace Parameters

/-- A text of a form: a plus sign is a blank, and escapes are decoded. -/
def formText (text : List Char) : String :=
  Text.decodeLenient (Text.Percent.decode (Text.bytesOf
    (String.ofList (text.map fun c => if c = '+' then ' ' else c))))

/-- A parameter: a name, and a value behind the first equals sign. -/
def formPair (text : List Char) : Named String :=
  let (name, value) := Text.cut '=' text
  ⟨formText name, formText (value.getD [])⟩

def ofQuery (query : List Char) : Parameters :=
  ((Text.split '&' query).filter fun part => !part.isEmpty).map formPair

def drop (name : String) : Parameters → Parameters
  | [] => []
  | item :: rest => if item.name = name then rest else item :: drop name rest

def variableOf (name : String) : String :=
  "BURROW_" ++ String.ofList (name.toList.map Char.toUpper)

/-- Takes the first parameter of a name, or reads its variable. -/
def take (environment : Environment) (name : String) : Action Failure Parameters (Option String) := do
  let parameters ← Action.state
  match Named.find? parameters name with
  | some value =>
    Action.modify (drop name)
    return some value
  | none => return environment (variableOf name)

def invalidValue (name value reason : String) : Failure :=
  .ofFault (.configuration
    ("parameter `" ++ name ++ "` has the invalid value `" ++ value ++ "`: " ++ reason))

/-- Takes a parameter and reads its value; the reader says why it cannot. -/
def takeRead {α : Type} (environment : Environment) (name : String) (read : String → Except String α) :
    Action Failure Parameters (Option α) := do
  match ← take environment name with
  | none => return none
  | some value =>
    match read value with
    | .ok item => return some item
    | .error reason => Action.fail (invalidValue name value reason)

def takeWord (environment : Environment) (kind : IntKind) (name : String) :
    Action Failure Parameters (Option (Word kind)) :=
  takeRead environment name fun value => (IntegerText.parse kind value).mapError IntegerText.Error.message

def truthValue (name : String) : Except String Bool :=
  if name = "true" then .ok true
  else if name = "false" then .ok false
  else .error "provided string was not `true` or `false`"

def takeTruth (environment : Environment) (name : String) : Action Failure Parameters (Option Bool) :=
  takeRead environment name truthValue

/-- Takes a parameter that is one of some names, or leaves the default. -/
def takeNamed {α : Type} (environment : Environment) (name : String) (ofName : String → Except Failure α)
    (default : α) : Action Failure Parameters α := do
  match ← take environment name with
  | none => return default
  | some value => Action.ofResult (ofName value)

def finish {σ : Type} (parameters : Parameters) : Action Failure σ Unit := do
  if parameters.isEmpty then return ()
  let failure := Failure.ofFault
    (.configuration ("unknown parameters: " ++ String.intercalate ", " (Named.names parameters)))
  Action.log .error .connectUrl failure.text
  Action.fail failure

end Parameters

end Polystore
