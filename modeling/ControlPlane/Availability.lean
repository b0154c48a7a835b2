import ControlPlane.Controller

/-!
# Availability

The number of voting state servers is raised to a target. The target is odd, so no vote of the
quorum can end in a tie.
-/

namespace ControlPlane.Controller

/-- How many voters have to be added to reach a target. -/
def missingVoters (maxPeers target voters : Nat) : Except Error Nat :=
  if target % 2 = 0 then
    .error (.invalidTarget "number of state servers must be odd and greater than zero")
  else if maxPeers < target then
    .error
      (.invalidTarget ("state server count is too large (allowed " ++ toString maxPeers ++ ")"))
  else if target < voters then .error (.cannotReduce voters target)
  else .ok (target - voters)

/-- The template of a new state server. -/
def serverTemplate (series : String) (constraints : Constraints) : Template where
  series := series
  jobs := [.hostUnits, .manageEnviron]
  constraints := constraints

/-- Adds state servers until the target is reached, all of them in one transaction. -/
def ensureAvailability (controller : Controller) (target : Nat) (constraints : Constraints)
    (series : String) : Procedure Unit := do
  let _ ← missingVoters controller.maxPeers target 0
  Environment.requireAlive
  let current ← StateServers.fetch
  let voters := current.votingMachineIds.length
  let missing ← missingVoters controller.maxPeers target voters
  if missing = 0 then
    return
  let plans ← (List.replicate missing (serverTemplate series constraints)).mapM CreationPlan.root
  let machines := plans.map (·.machine)
  let planned := voters + (machines.filter fun machine => !machine.noVote).length
  if planned ≠ target ∨ planned % 2 ≠ 1 then
    throw <| .internalError
      ("planned " ++ toString planned ++ " voting state servers, wanted " ++ toString target)
  Procedure.inContext "failed to create new state server machines"
    (commit (plans.flatMap (·.ops) ++ (StateServers.addOp? machines current).toList))

end ControlPlane.Controller
