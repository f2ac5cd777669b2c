import Polystore.Session.Basic

/-!
Sessions that answer from a script, whatever they are asked, and remember what they were asked. They show
how an executor deals with a back end.
-/
namespace Polystore.Scripted

/-- What is left of a script, and the statements so far. -/
structure Script (P : Type) where
  answers : List (Except Failure Response)
  statements : List (Statement P) := []

/-- Answers with the next entry of the script; behind its end every statement fails. -/
def reply {P : Type} (statement : Statement P) : Action Failure (Script P) Response := fun script =>
  match script.answers with
  | [] => ⟨.error (.ofNote "no more scripted responses"),
      { script with statements := script.statements ++ [statement] }, []⟩
  | answer :: rest => ⟨answer, ⟨rest, script.statements ++ [statement]⟩, []⟩

def session {P : Type} (builder : PredicateBuilder P) : Session (Script P) P where
  builder := builder
  execute := reply

/-- How many statements a script can answer, the failing one at its end included. -/
def Script.budget {P : Type} (script : Script P) : Nat := script.answers.length + 1

end Polystore.Scripted
