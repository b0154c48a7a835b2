import ControlPlane.EnvironmentConstraints
import ControlPlane.Machine.Record
import ControlPlane.Machine.Status

/-!
# Inspecting machines

The records about a machine that exists, and what its agent reports of it.
-/

namespace ControlPlane.Machine

open ControlPlane.Json ControlPlane.Store

/-- The ids of the containers hosted directly on a machine. -/
def containers (id : String) : Procedure (List String) :=
  ContainerRef.children <$>
    Procedure.fetch ContainerRef.decode .containerRef Layout.containerRefs id

/-- The constraints a machine was provisioned with. -/
def constraints (id : String) : Procedure Constraints :=
  Procedure.fetch Constraints.decode .constraints Layout.constraints (Layout.machineKey id)

/-- The status of a machine. -/
def status (id : String) : Procedure StatusRecord :=
  Procedure.fetch StatusRecord.decode .status Layout.statuses (Layout.machineKey id)

/-- The instance of a machine, where it is known. -/
def instanceData (id : String) : Procedure InstanceData :=
  Procedure.fetch InstanceData.decode .instanceData Layout.instanceData id

/-- Records the kinds of container that a machine supports, unless the machine is dead. -/
def reportOp (id : String) (kinds : List ContainerType) : Op :=
  .update Layout.machines id (.fields [.notEqual "life" Life.dead.toValue])
    [ .set "supported_containers" (.array ((ContainerType.ascending kinds).map (·.toValue))),
      .set "supported_containers_known" (.boolean true) ]

/-- Records the kinds of container that a machine supports. After a failure the machine is read
again, to tell one that does not exist and one that is dead from any other failure. -/
def setSupportedContainers (id : String) (kinds : List ContainerType) : Procedure Unit := do
  if kinds.contains .noContainer then
    throw (.invalidRequest "\"none\" is not a valid container type")
  match ← Procedure.attempt (commit [reportOp id kinds]) with
  | .ok () => return
  | .error error =>
    let machine ← Machine.fetch id
    if machine.life = .dead then
      throw (.invalidRequest ("machine " ++ id ++ " is dead"))
    else
      throw error

end ControlPlane.Machine
