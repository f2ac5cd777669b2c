import Polystore.Connection
import Polystore.DataType

/-!
Checks of connections. A check uses a connection as an application would and stops at the first thing that is
not as it should be. What it needs besides a connection is a way to let time pass, and a bound on the pages of
one read.
-/
namespace Polystore.Conformance

/-- What a check finds wrong. -/
inductive Breach where
  /-- Two things differ, or something does not hold. -/
  | unequal
  /-- Something is missing that must be there. -/
  | absent
  /-- What was attempted, or what should have been. -/
  | stated (message : String)
deriving DecidableEq, Repr

/-- What is under check. -/
structure Subject (σ : Type) where
  connection : Connection σ
  /-- Lets so many milliseconds pass. -/
  sleep : Nat → Action Breach σ Unit
  /-- More pages than one read can have. -/
  budget : Nat

abbrev Check (σ : Type) := Action Breach σ

def key : String := "_id"

def revision : String := "_rev"

variable {σ α : Type}

def breach (found : Breach) : Check σ α := Action.fail found

def demand (holds : Bool) : Check σ Unit := if holds then pure () else breach .unequal

/-- Demands that something holds, and says what it is. -/
def demandThat (message : String) (holds : Bool) : Check σ Unit :=
  if holds then pure () else breach (.stated message)

def present : Option α → Check σ α
  | some item => pure item
  | none => breach .absent

/-- Demands that something is there, and says what it is. -/
def presentAs (message : String) : Option α → Check σ α
  | some item => pure item
  | none => breach (.stated message)

def succeed (message : String) (action : Action Failure σ α) : Check σ α :=
  action.mapError fun failure => .stated (message ++ ": " ++ failure.text)

/-- Demands that an operation fails, with a fault that is as it should be. -/
def refuse (message : String) (action : Action Failure σ α) (expected : Fault → Bool) : Check σ Unit := do
  match ← action.attempt with
  | .ok _ => breach (.stated message)
  | .error failure => demand (failure.fault?.any expected)

/-- The field of an entity, which must have it. -/
def fieldOf (entity : Entity) (name : String) : Check σ Field := present (entity.find? name)

/-- The element of a type that a field holds. -/
def elementOf (field : Field) (type : DataType) : Check σ type.Element :=
  present (Field.get field type).toOption

/-- The element of a type that an entity has under a name. -/
def read (entity : Entity) (name : String) (type : DataType) : Check σ type.Element := do
  elementOf (← fieldOf entity name) type

def demandElement (field : Field) (type : DataType) (expected : type.Element) : Check σ Unit := do
  demand ((type.encode (← elementOf field type)).same (type.encode expected))

/-- Demands that an entity has an element under a name. -/
def demandRead (entity : Entity) (name : String) (type : DataType) (expected : type.Element) :
    Check σ Unit := do
  demandElement (← fieldOf entity name) type expected

abbrev i32 : DataType := .scalar (.integer .i32)

abbrev u64 : DataType := .scalar (.integer .u64)

abbrev text : DataType := .scalar .text

def int32 (n : Int) : Value := .word (Word.clamp .i32 n)

def demandRevision (entity : Entity) (expected : Nat) : Check σ Unit :=
  demandRead entity revision u64 (Word.clamp .u64 expected)

def texts (items : List String) : Value := (DataType.vector text).encode items

def readAll (subject : Subject σ) (message : String) (query : Query) : Check σ (List Entity) := do
  return (← succeed message (subject.connection.selectAll subject.budget query)).entities

def readOne (subject : Subject σ) (message : String) (query : Query) : Check σ Entity := do
  match ← readAll subject message query with
  | [entity] => return entity
  | _ => breach .unequal

def keyIs (name : String) : Condition := .leaf .equals ⟨key, .text name⟩

/-- A condition on the key, which is one of several. -/
def keyIn (names : List String) : Condition := .leaf .isIn ⟨key, texts names⟩

/-- Removes all entities of a collection, and tells how many there were. -/
def clear (subject : Subject σ) (collection : String) : Check σ Nat :=
  succeed ("Failed to clear " ++ collection) (subject.connection.delete { collection := collection })

def insertAll (subject : Subject σ) (message : String) : List Entity → Check σ Unit
  | [] => pure ()
  | entity :: rest => do
    let _ ← succeed message (subject.connection.insert entity)
    insertAll subject message rest

/-- The integer that an entity has under the name `n`. -/
def numberOf (entity : Entity) : Check σ Int := do return (← read entity "n" i32).val

/-- The integers that entities have under the name `n`. -/
def numbersOf : List Entity → Check σ (List Int)
  | [] => pure []
  | entity :: rest => do
    let first ← numberOf entity
    return first :: (← numbersOf rest)

def upTo (count : Nat) : List Int := (List.range count).map Int.ofNat

end Polystore.Conformance
