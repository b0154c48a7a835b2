import ControlPlane.EnvironmentConstraints
import ControlPlane.Machine.Status
import ControlPlane.Machine.Template
import ControlPlane.Policy

/-!
# Creating machines

There are three ways to place a new machine: as a root machine, as a container on a machine that
exists, and as a container on a root machine that is created with it. Each is planned as the
record of the new machine and the operations that insert it, the records about it and its place
among its parent's containers. A plan takes numbers from counters and writes nothing else.
-/

namespace ControlPlane

open ControlPlane.Json ControlPlane.Store

/-- A machine that is to be created, with the operations that do so. -/
structure CreationPlan where
  machine : Machine
  ops : List Op

namespace Machine

/-- The status of a new machine. -/
def initialStatus : StatusRecord where
  status := .pending
  info := ""

/-- Inserts a machine with its constraints, its status and its instance if that is known. -/
def insertOps (machine : Machine) (template : Template) : List Op :=
  [ .insert Layout.machines machine.id machine.toValue,
    .insert Layout.constraints (Layout.machineKey machine.id) template.constraints.toValue,
    .insert Layout.statuses (Layout.machineKey machine.id) initialStatus.toValue ] ++
  (machine.instanceId.map fun instanceId =>
    Op.insert Layout.instanceData machine.id
      (InstanceData.toValue
        { machineId := machine.id, instanceId, hardware := template.hardware.getD {} })).toList

end Machine

namespace ContainerRef

/-- Inserts the list of the containers on a machine. -/
def insertOp (id : String) (children : List String) : Op :=
  .insert Layout.containerRefs id (toValue { id, children })

/-- Adds a container to the list of its parent. -/
def adoptOp (parent child : String) : Op :=
  .update Layout.containerRefs parent .present [.addToSet "children" [.string child]]

end ContainerRef

namespace Template

/-- Checks a template against the present constraints of the environment. -/
def effective (template : Template) (allowStateServer : Bool) : Procedure Template := do
  let environment ← Environment.constraints
  match template.validate environment allowStateServer with
  | .ok template => return template
  | .error error => throw error

/-- Fails if the instance of a container is given. -/
def refuseInstance (template : Template) : Except Error Unit :=
  if template.knownInstance?.isSome then
    .error (.invalidRequest "cannot specify instance id for a new container")
  else .ok ()

end Template

namespace CreationPlan

/-- Fails unless a kind of container is named. -/
def requireContainer (kind : ContainerType) : Except Error Unit :=
  if kind = .noContainer then .error (.invalidRequest "no container type specified") else .ok ()

/-- The plan of a root machine with an id. -/
def ofRoot (template : Template) (id : String) : CreationPlan :=
  let machine := template.machine id none
  { machine
    ops := machine.insertOps template ++ [ContainerRef.insertOp machine.id []] }

/-- The plan of a container with an id, on a machine that exists. -/
def ofInside (template : Template) (parent : String) (kind : ContainerType) (id : String) :
    CreationPlan :=
  let machine := template.machine id (some kind)
  { machine
    ops :=
      machine.insertOps template ++
        [ContainerRef.adoptOp parent machine.id, ContainerRef.insertOp machine.id []] }

/-- The plan of a container and the root machine that hosts it, with their ids. -/
def ofInsideNew (template parentTemplate : Template) (kind : ContainerType)
    (parentId id : String) : CreationPlan :=
  let parent := parentTemplate.machine parentId none
  let machine := template.machine id (some kind)
  { machine
    ops :=
      parent.insertOps parentTemplate ++ machine.insertOps template ++
        [ContainerRef.insertOp machine.id [], ContainerRef.insertOp parent.id [machine.id]] }

/-- Plans a root machine. -/
def root (template : Template) : Procedure CreationPlan := do
  let template ← template.effective true
  if template.knownInstance?.isNone then
    precheck template.series template.constraints
  let id ← MachineId.nextRoot
  return ofRoot template id

/-- Plans a container on a machine that exists. -/
def inside (template : Template) (parent : String) (kind : ContainerType) :
    Procedure CreationPlan := do
  template.refuseInstance
  let template ← template.effective false
  requireContainer kind
  let host ← Machine.fetch parent
  if !host.supports kind then
    throw (.unsupportedContainer parent kind.word)
  let id ← MachineId.nextContainer parent kind
  return ofInside template parent kind id

/-- Plans a container on a root machine that is created with it. -/
def insideNew (template parentTemplate : Template) (kind : ContainerType) :
    Procedure CreationPlan := do
  template.refuseInstance
  parentTemplate.refuseInstance
  let parentTemplate ← parentTemplate.effective false
  requireContainer kind
  let template ← template.effective false
  precheck parentTemplate.series parentTemplate.constraints
  let parentId ← MachineId.nextRoot
  let id ← MachineId.nextContainer parentId kind
  return ofInsideNew template parentTemplate kind parentId id

end CreationPlan

end ControlPlane
