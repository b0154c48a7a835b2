import ControlPlane.Machine.Record

/-!
# State servers

One document lists the state servers and those of them that vote. It is never locked: who adds to
it asserts that both lists still have the lengths that were read, and as ids are only ever added,
equal lengths mean that nothing has changed in between.
-/

namespace ControlPlane

open ControlPlane.Json ControlPlane.Store

/-- The machines that are state servers, and those of them that count towards the quorum. -/
structure StateServers where
  machineIds : List String := []
  votingMachineIds : List String := []
  deriving DecidableEq, Repr

namespace StateServers

/-- Whether no machine is listed at all. -/
def isEmpty (servers : StateServers) : Bool :=
  servers.machineIds.isEmpty && servers.votingMachineIds.isEmpty

/-- The stored lists. -/
def toFields (servers : StateServers) : List (String × Option Value) :=
  [("machine_ids", some (.strings servers.machineIds)),
    ("voting_machine_ids", some (.strings servers.votingMachineIds))]

/-- The lists alone, as data. -/
def toValue (servers : StateServers) : Value :=
  .ofFields servers.toFields

/-- The fields of the lists. -/
def fields : Fields StateServers :=
  StateServers.mk
    <$> Fields.required "machine_ids" (Decoder.sequence Decoder.string)
    <*> Fields.required "voting_machine_ids" (Decoder.sequence Decoder.string)

/-- Reads the lists alone. -/
def decode : Decoder StateServers :=
  fields.record "struct StateServerInfo"

end StateServers

/-- The stored document of the state servers. -/
structure StateServersRecord where
  id : String
  servers : StateServers
  deriving DecidableEq, Repr

namespace StateServersRecord

/-- The stored fields, with the lists beside the id. -/
def toFields (record : StateServersRecord) : List (String × Option Value) :=
  ("_id", some (.string record.id)) :: record.servers.toFields

/-- The document as it is stored. -/
def toValue (record : StateServersRecord) : Value :=
  .ofFields record.toFields

/-- Reads the stored document. -/
def decode : Decoder StateServersRecord :=
  (Fields.required "_id" Decoder.string).flattened "struct StateServersDoc" StateServers.fields
    StateServersRecord.mk

end StateServersRecord

namespace StateServers

/-- Inserts the document without any state servers. -/
def insertOp : Op :=
  .insert Layout.stateServers Layout.environmentKey
    (StateServersRecord.toValue { id := Layout.environmentKey, servers := {} })

/-- The state servers among machines. -/
def ofMachines (machines : List Machine) : StateServers where
  machineIds := (machines.filter (·.isStateServer)).map (·.id)
  votingMachineIds := (machines.filter (·.hasVote)).map (·.id)

/-- Adds the state servers among machines to the lists that were read as `current`, if these still
have their lengths; nothing where none of the machines is a state server. -/
def addOp? (machines : List Machine) (current : StateServers) : Option Op :=
  let added := ofMachines machines
  if added.machineIds.isEmpty then none
  else
    some <| .update Layout.stateServers Layout.environmentKey
      (.fields
        [.size "machine_ids" current.machineIds.length,
          .size "voting_machine_ids" current.votingMachineIds.length])
      [.addToSet "machine_ids" (added.machineIds.map .string),
        .addToSet "voting_machine_ids" (added.votingMachineIds.map .string)]

/-- Fetches the state servers. -/
def fetch : Procedure StateServers :=
  StateServersRecord.servers <$>
    Procedure.fetch StateServersRecord.decode .stateServerInfo Layout.stateServers
      Layout.environmentKey

/-- The operations that keep the lists in step with machines added on request. The only state
server that may be added so is the machine "0", on its own and as the first one. The lists are
always fetched: to add to lists that have been read already, without these checks, is left to
`addOp?`, as no request comes here with such lists. -/
def bootstrapOps (machines : List Machine) : Procedure (List Op) := do
  if !machines.any (·.isStateServer) then
    return []
  if machines.map (·.id) ≠ ["0"] then
    throw .stateServerNotAllowed
  let current ← Procedure.inContext "cannot get state server info" fetch
  if !current.isEmpty then
    throw (.objectAlreadyExists .stateServerInfo "state servers")
  return (addOp? machines current).toList

end StateServers

end ControlPlane
