import ControlPlane.Machine.Creation
import ControlPlane.StateServers

/-!
# Adding machines

Machines are added in one transaction, which takes place only in an environment that is alive.
-/

namespace ControlPlane.Machine

/-- Adds one root machine for each template, all of them or none. -/
def addAll (templates : List Template) : Procedure (List Machine) :=
  Procedure.inContext "cannot add a new machine" do
    Environment.requireAlive
    let plans ← templates.mapM CreationPlan.root
    let machines := plans.map (·.machine)
    let servers ← StateServers.bootstrapOps machines
    commit (plans.flatMap (·.ops) ++ servers)
    return machines

/-- Adds one root machine. -/
def add (template : Template) : Procedure Machine := do
  match (← addAll [template]).getLast? with
  | some machine => return machine
  | none => throw (.internalError "no machine was added")

/-- Adds a container to a machine that exists. -/
def addInside (template : Template) (parent : String) (kind : ContainerType) :
    Procedure Machine := do
  Environment.requireAlive
  let plan ← CreationPlan.inside template parent kind
  commit plan.ops
  return plan.machine

/-- Adds a root machine and a container on it, and returns the container. -/
def addInsideNew (template parentTemplate : Template) (kind : ContainerType) :
    Procedure Machine := do
  Environment.requireAlive
  let plan ← CreationPlan.insideNew template parentTemplate kind
  commit plan.ops
  return plan.machine

end ControlPlane.Machine
