import Polystore.Executor

/-!
Connections: what applications use of a back end. Writes give the entity back with its identity fields
renewed, reads are paged, and reading everything follows the pages.
-/
namespace Polystore

/-- The operations of a connected back end with states of type `σ`. -/
structure Connection (σ : Type) where
  insert : Entity → Action Failure σ Entity
  /-- Inserts an entity that expires after so many milliseconds. -/
  insertExpiring : Entity → Nat → Action Failure σ Entity
  /-- Replaces the entity of the same key. -/
  update : Entity → Action Failure σ Entity
  /-- Removes entities, or fields of them, and tells how many entities were concerned. -/
  delete : DeleteQuery → Action Failure σ Nat
  select : Query → Cursor → Action Failure σ Page
  close : Action Failure σ Unit

namespace Connection

variable {σ : Type}

/-- What back ends do that know no expiry. -/
def withoutExpiry (backend : String) (_entity : Entity) (_lifetime : Nat) : Action Failure σ Entity :=
  Action.fail (.ofFault (.unsupportedFeature backend "time to live"))

/-- Reads from the start to the end, with at most so many reads. -/
def selectAll (connection : Connection σ) (budget : Nat) (query : Query) : Action Failure σ Page :=
  follow (connection.select query) budget .start

end Connection

end Polystore
