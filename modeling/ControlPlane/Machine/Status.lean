import ControlPlane.Json.Decode

/-!
# Statuses

What the agent of a machine reports, with a message.
-/

namespace ControlPlane

/-- The state of a machine as its agent reports it. -/
inductive MachineStatus where
  | pending
  | started
  | stopped
  | error
  deriving DecidableEq, Repr

namespace MachineStatus

/-- The word for a status. -/
def word : MachineStatus → String
  | pending => "pending"
  | started => "started"
  | stopped => "stopped"
  | error => "error"

instance : Keyword MachineStatus where
  all := [pending, started, stopped, error]
  word := word
  mem_all a := by cases a <;> decide
  word_injective a b := by cases a <;> cases b <;> decide

end MachineStatus

/-- The stored status of a machine. -/
structure StatusRecord where
  status : MachineStatus
  info : String
  deriving DecidableEq, Repr

namespace StatusRecord

/-- A status as it is stored. -/
def toValue (record : StatusRecord) : Json.Value :=
  .ofFields [("status", some (.string record.status.word)), ("info", some (.string record.info))]

/-- The fields of a stored status. -/
def fields : Json.Fields StatusRecord :=
  StatusRecord.mk
    <$> Json.Fields.required "status" Json.Decoder.keyword
    <*> Json.Fields.required "info" Json.Decoder.string

/-- Reads a stored status. -/
def decode : Json.Decoder StatusRecord :=
  fields.record "struct StatusDoc"

end StatusRecord

end ControlPlane
