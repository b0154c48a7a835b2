import ControlPlane.Layout
import ControlPlane.Life
import ControlPlane.Uuid

/-!
# The environment

The environment is one document with a life of its own. Every batch of operations that changes
records is committed together with the assertion that the environment is alive.
-/

namespace ControlPlane

open ControlPlane.Json ControlPlane.Store

/-- The record of the environment. -/
structure Environment where
  id : String
  uuid : Uuid
  life : Life
  deriving DecidableEq

namespace Environment

/-- The environment as it is stored. -/
def toValue (environment : Environment) : Value :=
  .ofFields
    [("_id", some (.string environment.id)), ("uuid", some (.string environment.uuid.render)),
      ("life", some environment.life.toValue)]

/-- Reads a stored identifier. -/
def decodeUuid : Decoder Uuid
  | .string text =>
    match Uuid.parse? text with
    | some uuid => .ok uuid
    | none => .error (.malformed ("UUID parsing failed: " ++ (Uuid.flaw text).message))
  | found => .error (.invalidType found "a formatted UUID string")

/-- The fields of the stored environment. -/
def fields : Fields Environment :=
  Environment.mk
    <$> Fields.required "_id" Decoder.string
    <*> Fields.required "uuid" decodeUuid
    <*> Fields.required "life" Life.decode

/-- Reads the stored environment. -/
def decode : Decoder Environment :=
  fields.record "struct EnvironmentDoc"

/-- A living environment with the given identifier. -/
def fresh (uuid : Uuid) : Environment where
  id := Layout.environmentKey
  uuid := uuid
  life := .alive

/-- The assertion that the environment is alive. -/
def aliveAssertion : Assertion :=
  .fields [.equal "life" Life.alive.toValue]

/-- Checks that the environment is alive. -/
def checkAliveOp : Op :=
  .check Layout.environments Layout.environmentKey aliveAssertion

/-- Inserts the environment. -/
def insertOp (environment : Environment) : Op :=
  .insert Layout.environments Layout.environmentKey environment.toValue

/-- Begins to tear the environment down if it is alive. -/
def destroyOp : Op :=
  .update Layout.environments Layout.environmentKey aliveAssertion
    [.set "life" Life.dying.toValue]

/-- Fetches the environment. -/
def fetch : Procedure Environment := do
  match ← Procedure.fetch? decode Layout.environments Layout.environmentKey with
  | some environment => return environment
  | none => throw (.objectNotFound .environment (.byGlobalKey Layout.environmentKey))

/-- Fails unless the environment is alive. -/
def requireAlive : Procedure Unit := do
  let environment ← fetch
  if environment.life ≠ .alive then
    throw .environmentNotAlive

/-- Begins to tear the environment down; one that is no longer alive is left as it is. -/
def destroy : Procedure Unit := do
  let environment ← fetch
  if environment.life ≠ .alive then
    return
  match ← Procedure.ask (.transact [destroyOp]) with
  | .ok () => return
  | .error (.aborted _ _ _ _) => return
  | .error error => throw error.toError

end Environment

/-- Runs operations as one transaction that takes place only if the environment is alive.

After a failure the environment is read again: if it is no longer alive that is the error, and
only otherwise the failure itself. -/
def commit (ops : List Op) : Procedure Unit := do
  Environment.requireAlive
  match ← Procedure.ask (.transact (Environment.checkAliveOp :: ops)) with
  | .ok () => return
  | .error failure =>
    match ← Procedure.attempt Environment.fetch with
    | .ok environment =>
      if environment.life = .alive then
        throw failure.toError
      else
        throw .environmentNotAlive
    | .error (.objectNotFound _ _) => throw .environmentNotAlive
    | .error error => throw error

end ControlPlane
