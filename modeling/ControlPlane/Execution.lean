import ControlPlane.Policy
import ControlPlane.Store.Shared

/-!
# Execution

A procedure is executed by answering its calls from a shared store and a policy. What the
prechecker is asked is kept in the order of the questions.
-/

namespace ControlPlane

/-- What an execution changes: the store, and the record of the questions to the prechecker. -/
structure Surroundings where
  shared : SharedStore := {}
  prechecks : List (String × Constraints) := []

namespace Surroundings

/-- Answers one call. Without a policy there is no prechecker. -/
def answer (policy : Option Policy) : (call : Call) → Surroundings → call.Answer × Surroundings
  | .get collection id, around =>
    let (answer, shared) := around.shared.get collection id
    (answer, { around with shared })
  | .increment collection id field, around =>
    let (answer, shared) := around.shared.increment collection id field
    (answer, { around with shared })
  | .transact ops, around =>
    let (answer, shared) := around.shared.transact ops
    (answer, { around with shared })
  | .prechecker, around =>
    match policy with
    | none => (.ok false, around)
    | some policy => (policy.hasPrechecker, around)
  | .precheck series constraints, around =>
    let around := { around with prechecks := around.prechecks ++ [(series, constraints)] }
    match policy with
    | none => (.ok (), around)
    | some policy => (policy.verdict series constraints, around)

/-- Executes a procedure from beginning to end. -/
def execute {α : Type} (policy : Option Policy) (procedure : Procedure α)
    (around : Surroundings) : Except Error α × Surroundings :=
  Session.run (answer policy) procedure.run around

end Surroundings

end ControlPlane
