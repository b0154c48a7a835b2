import ControlPlane.Life
import ControlPlane.Machine.Address
import ControlPlane.Machine.Identity
import ControlPlane.Machine.Instance
import ControlPlane.Machine.Job

/-!
# Machines

The record of a machine and what can be told from it alone, and the record of the containers that
a machine hosts.
-/

namespace ControlPlane

open ControlPlane.Json

/-- The record of a machine. -/
structure Machine where
  id : String
  series : String
  containerType : Option ContainerType
  principals : List String
  life : Life
  jobs : List Job
  noVote : Bool
  clean : Bool
  instanceId : Option InstanceId
  nonce : Option String
  addresses : List Address
  supportedContainersKnown : Bool
  supportedContainers : List ContainerType
  deriving DecidableEq, Repr

namespace Machine

/-- The names of the stored fields with what they hold, in the order of their declaration. -/
def toFields (machine : Machine) : List (String × Option Value) :=
  [("_id", some (.string machine.id)), ("series", some (.string machine.series)),
    ("container_type", machine.containerType.map (·.toValue)),
    ("principals", some (.strings machine.principals)), ("life", some machine.life.toValue),
    ("jobs", some (.array (machine.jobs.map (·.toValue)))),
    ("no_vote", some (.boolean machine.noVote)), ("clean", some (.boolean machine.clean)),
    ("instance_id", machine.instanceId.map (·.toValue)), ("nonce", machine.nonce.map .string),
    ("addresses", some (.array (machine.addresses.map (·.toValue)))),
    ("supported_containers_known", some (.boolean machine.supportedContainersKnown)),
    ("supported_containers", some (.array (machine.supportedContainers.map (·.toValue))))]

/-- A machine as it is stored, without the fields that are unset. -/
def toValue (machine : Machine) : Value :=
  .ofFields machine.toFields

/-- The fields of a stored machine. -/
def fields : Fields Machine :=
  Machine.mk
    <$> Fields.required "_id" Decoder.string
    <*> Fields.required "series" Decoder.string
    <*> Fields.optional "container_type" ContainerType.decode
    <*> Fields.required "principals" (Decoder.sequence Decoder.string)
    <*> Fields.required "life" Life.decode
    <*> Fields.required "jobs" (Decoder.sequence Job.decode)
    <*> Fields.required "no_vote" Decoder.boolean
    <*> Fields.required "clean" Decoder.boolean
    <*> Fields.optional "instance_id" InstanceId.decode
    <*> Fields.optional "nonce" Decoder.string
    <*> Fields.required "addresses" (Decoder.sequence Address.decode)
    <*> Fields.required "supported_containers_known" Decoder.boolean
    <*> Fields.required "supported_containers" (Decoder.sequence ContainerType.decode)

/-- Reads a stored machine. -/
def decode : Decoder Machine :=
  fields.record "struct MachineDoc"

/-- Whether the machine runs a job. -/
def hasJob (machine : Machine) (job : Job) : Bool :=
  machine.jobs.contains job

/-- Whether the machine is a state server. -/
def isStateServer (machine : Machine) : Bool :=
  machine.hasJob .manageEnviron

/-- Whether the machine is a state server that counts towards the quorum. -/
def hasVote (machine : Machine) : Bool :=
  machine.isStateServer && !machine.noVote

/-- Whether the machine may host containers of a kind. One that has not reported what it supports
is taken to support everything. -/
def supports (machine : Machine) (kind : ContainerType) : Bool :=
  !machine.supportedContainersKnown || machine.supportedContainers.contains kind

/-- The kinds of container the machine supports, if it has reported them. -/
def reportedContainers? (machine : Machine) : Option (List ContainerType) :=
  if machine.supportedContainersKnown then some machine.supportedContainers else none

/-- The id of the machine that hosts this one, if it is a container. -/
def parent? (machine : Machine) : Option String :=
  MachineId.parent? machine.id

/-- Fetches a machine. -/
def fetch (id : String) : Procedure Machine :=
  Procedure.fetch decode .machine Layout.machines id

end Machine

/-- The record of the containers hosted directly on a machine. -/
structure ContainerRef where
  id : String
  children : List String
  deriving DecidableEq, Repr

namespace ContainerRef

/-- The stored fields. -/
def toFields (ref : ContainerRef) : List (String × Option Value) :=
  [("_id", some (.string ref.id)), ("children", some (.strings ref.children))]

/-- A list of containers as it is stored. -/
def toValue (ref : ContainerRef) : Value :=
  .ofFields ref.toFields

/-- The fields of a stored list of containers. -/
def fields : Fields ContainerRef :=
  ContainerRef.mk
    <$> Fields.required "_id" Decoder.string
    <*> Fields.required "children" (Decoder.sequence Decoder.string)

/-- Reads a stored list of containers. -/
def decode : Decoder ContainerRef :=
  fields.record "struct ContainerRefDoc"

end ContainerRef

end ControlPlane
