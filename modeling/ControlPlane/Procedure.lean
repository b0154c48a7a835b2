import ControlPlane.Error
import ControlPlane.Json.Decode
import ControlPlane.Session

/-!
# Procedures

A procedure is a session that may end in an error. Failures of the store become errors here: a
lost race is an aborted transaction, an operation that does not fit is an internal error, and an
unavailable store is an unavailable service.
-/

namespace ControlPlane

/-- The error that a failure of the store stands for. -/
def StoreError.toError : StoreError → Error
  | .unavailable message => .serviceUnavailable message
  | .aborted index collection id reason =>
    .transactionAborted (StoreError.aborted index collection id reason).message
  | .invalidOp index collection id cause =>
    .internalError (StoreError.invalidOp index collection id cause).message

/-- A session that may end in an error. -/
abbrev Procedure (α : Type) := ExceptT Error Session α

namespace Procedure

variable {α : Type}

/-- Makes one call, whose failure is not yet an error. -/
def ask (call : Call) : Procedure call.Answer :=
  ExceptT.lift (Session.call call)

/-- Ends in an error unless the store has answered. -/
def answered : Except StoreError α → Procedure α
  | .ok answer => pure answer
  | .error error => throw error.toError

/-- Runs a procedure and keeps its error as a result. -/
def attempt (procedure : Procedure α) : Procedure (Except Error α) :=
  ExceptT.lift procedure.run

/-- Puts context before the internal message of an error. -/
def inContext (context : String) (procedure : Procedure α) : Procedure α :=
  ExceptT.mk do
    match ← procedure.run with
    | .ok result => return .ok result
    | .error error => return .error (error.inContext context)

/-- Takes a stored document apart; one that cannot be is an internal error. -/
def decoded (decode : Json.Decoder α) (document : Json.Value) : Procedure α :=
  match decode document with
  | .ok record => pure record
  | .error complaint => throw (.internalError complaint.message)

end Procedure

end ControlPlane
