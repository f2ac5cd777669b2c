import Polystore.Conformance.Conditions
import Polystore.Conformance.Fields
import Polystore.Conformance.Paging
import Polystore.Conformance.Writes

/-!
The checks of a connection in their order, and the verdict.
-/
namespace Polystore.Conformance

variable {σ : Type}

/-- All checks; the first breach ends them. -/
def suite (subject : Subject σ) : Check σ Unit := do
  scalars subject
  documents subject
  conditions subject
  paging subject
  identity subject
  removals subject
  expiry subject
  callbacks subject

/-- What a text says up to the first reason it gives. -/
def headline (message : String) : String := (message.splitOn ": ").headD ""

def Breach.text : Breach → String
  | .unequal => "<assert>"
  | .absent => "<unwrap>"
  | .stated message => headline message

def verdict : Except Breach Unit → String
  | .ok _ => "passed"
  | .error found => "failed: " ++ found.text

end Polystore.Conformance
