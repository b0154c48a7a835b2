import ControlPlane.Proofs.Run.Outcomes

/-!
# What each task is to submit

`Submission` lists the transactions that some task or other may submit.  Here
they are told apart by the task: a task submits the one transaction that it
stands for, with what it has read and drawn before.
-/

namespace ControlPlane

open Json Store

variable {past later : History}

/-- Plans of root machines, one for each template and each with a number of its own. -/
structure CreationPlan.AreRoots (raws : List Template) (past : History)
    (plans : List CreationPlan) : Prop where
  roots : List.Forall₂ (fun raw plan => plan.IsRoot raw past) raws plans
  numbered : Numbered plans past

namespace CreationPlan

variable {raws : List Template} {plans : List CreationPlan} {raw template : Template}
  {rawParent parentTemplate : Template} {parent : String} {kind : ContainerType}
  {parentNumber number : Nat} {host : Machine}

theorem AreRoots.length_eq (h : AreRoots raws past plans) : plans.length = raws.length :=
  h.roots.length_eq.symm

theorem AreRoots.exists_raw (h : AreRoots raws past plans) :
    ∀ plan ∈ plans, ∃ raw ∈ raws, plan.IsRoot raw past :=
  exists_raw_of_forall₂ h.roots

theorem AreRoots.mono (h : AreRoots raws past plans) (hextend : past <+: later) :
    AreRoots raws later plans where
  roots := h.roots.imp fun _ _ hroot => hroot.mono hextend
  numbered := h.numbered.mono hextend

/-- The voters that are planned for make up for those that are missing. -/
theorem AreRoots.voters_eq {maxPeers target voters missing : Nat} {constraints : Constraints}
    {series : String}
    (h : AreRoots (List.replicate missing (Controller.serverTemplate series constraints)) past
      plans) (hmissing : Controller.missingVoters maxPeers target voters = .ok missing) :
    voters + ((plans.map (·.machine)).filter fun machine => !machine.noVote).length = target ∧
      target % 2 = 1 := by
  obtain ⟨hodd, -, hsum⟩ := Controller.target_of_missingVoters hmissing
  have hvotes : ∀ machine ∈ plans.map (·.machine), (!machine.noVote) = true := by
    intro machine hmachine
    obtain ⟨plan, hplan, rfl⟩ := List.mem_map.mp hmachine
    obtain ⟨raw, hraw, hroot⟩ := h.exists_raw plan hplan
    rw [List.eq_of_mem_replicate hraw] at hroot
    exact (Bool.and_eq_true_iff.mp (Controller.hasVote_of_isRoot hroot)).2
  have hlength := h.length_eq
  rw [List.length_replicate] at hlength
  rw [List.filter_eq_self.mpr hvotes, List.length_map, hlength]
  exact ⟨hsum, hodd⟩

theorem IsInside.mono (h : IsInside raw parent kind past template number host)
    (hextend : past <+: later) : IsInside raw parent kind later template number host where
  accepted := h.accepted.mono hextend
  instance_eq := h.instance_eq
  kind_ne := h.kind_ne
  found := h.found.mono hextend
  supports := h.supports
  drew := h.drew.mono hextend

theorem IsInsideNew.mono
    (h : IsInsideNew raw rawParent kind past template parentTemplate parentNumber number)
    (hextend : past <+: later) :
    IsInsideNew raw rawParent kind later template parentTemplate parentNumber number where
  accepted := h.accepted.mono hextend
  parent := h.parent.mono hextend
  instance_eq := h.instance_eq
  parentInstance_eq := h.parentInstance_eq
  kind_ne := h.kind_ne
  parentDrew := h.parentDrew.mono hextend
  drew := h.drew.mono hextend

end CreationPlan

theorem StateServers.Bootstraps.mono {current : StateServers} {machines : List Machine}
    (h : current.Bootstraps machines past) (hextend : past <+: later) :
    current.Bootstraps machines later :=
  h.imp_right fun ⟨hids, hread, hempty⟩ => ⟨hids, hread.mono hextend, hempty⟩

/-- The transaction that a request to a controller is to submit, after what it has asked. -/
inductive Request.Submits (controller : Controller) : Request → History → List Op → Prop where
  | setEnvironmentConstraints (constraints : Constraints) (past : History) :
      Submits controller (.setEnvironmentConstraints constraints) past
        [Environment.checkAliveOp, Environment.replaceConstraintsOp constraints]
  | destroyEnvironment (past : History) :
      Submits controller .destroyEnvironment past [Environment.destroyOp]
  | setSupportedContainers (id : String) (kinds : List ContainerType) (past : History) :
      Submits controller (.setSupportedContainers id kinds) past
        [Environment.checkAliveOp, Machine.reportOp id kinds]
  | ensureAvailability {target missing : Nat} {constraints : Constraints} {series : String}
      {past : History} {plans : List CreationPlan} {current : StateServers}
      (hread : current.WereRead past)
      (hmissing : Controller.missingVoters controller.maxPeers target
        current.votingMachineIds.length = .ok missing)
      (hsome : missing ≠ 0)
      (hplans : CreationPlan.AreRoots
        (List.replicate missing (Controller.serverTemplate series constraints)) past plans) :
      Submits controller (.ensureAvailability target constraints series) past
        (Environment.checkAliveOp :: (plans.flatMap (·.ops) ++
          (StateServers.addOp? (plans.map (·.machine)) current).toList))
  | addMachines {raws : List Template} {past : History} {plans : List CreationPlan}
      {current : StateServers} (hplans : CreationPlan.AreRoots raws past plans)
      (hcurrent : current.Bootstraps (plans.map (·.machine)) past) :
      Submits controller (.addMachines raws) past
        (Environment.checkAliveOp :: (plans.flatMap (·.ops) ++
          (StateServers.addOp? (plans.map (·.machine)) current).toList))
  | addMachine {raw : Template} {past : History} {plans : List CreationPlan}
      {current : StateServers} (hplans : CreationPlan.AreRoots [raw] past plans)
      (hcurrent : current.Bootstraps (plans.map (·.machine)) past) :
      Submits controller (.addMachine raw) past
        (Environment.checkAliveOp :: (plans.flatMap (·.ops) ++
          (StateServers.addOp? (plans.map (·.machine)) current).toList))
  | addInside {raw template : Template} {parent : String} {kind : ContainerType} {number : Nat}
      {host : Machine} {past : History}
      (hplan : CreationPlan.IsInside raw parent kind past template number host) :
      Submits controller (.addInside raw parent kind) past
        (Environment.checkAliveOp ::
          (CreationPlan.ofInside template parent kind
            (MachineId.container parent kind number)).ops)
  | addInsideNew {raw rawParent template parentTemplate : Template} {kind : ContainerType}
      {parentNumber number : Nat} {past : History}
      (hplan : CreationPlan.IsInsideNew raw rawParent kind past template parentTemplate
        parentNumber number) :
      Submits controller (.addInsideNew raw rawParent kind) past
        (Environment.checkAliveOp ::
          (CreationPlan.ofInsideNew template parentTemplate kind (MachineId.root parentNumber)
            (MachineId.container (MachineId.root parentNumber) kind number)).ops)

/-- The transaction that a task is to submit, after what it has asked. -/
inductive Task.Submits : Task → History → List Op → Prop where
  | establish (quorum : QuorumConfig) (uuid : Uuid) (constraints : Constraints) (past : History) :
      Submits (.establish quorum uuid constraints) past
        [ (Environment.fresh uuid).insertOp, Environment.insertConstraintsOp constraints,
          StateServers.insertOp ]
  | request {controller : Controller} {asked : Request} {past : History} {ops : List Op}
      (h : asked.Submits controller past ops) : Submits (.request controller asked) past ops

end ControlPlane
