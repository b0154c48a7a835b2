import ControlPlane.Proofs.Run.Basic

/-!
# What controllers submit

Every transaction is one of seven kinds.  `Submission` lists them together
with what the task has learned before it submits: which records it has read
and which numbers it has drawn.  It says nothing about what is in the store by
then, which is for the assertions of the transaction to find out.
-/

namespace ControlPlane

open Json Store

/-- A record has been read. -/
def History.Found {α : Type} (past : History) (decode : Decoder α) (collection id : String)
    (record : α) : Prop :=
  ∃ document, Exchange.mk (.get collection id) (.ok (some document)) ∈ past ∧
    decode document = .ok record

/-- A number has been drawn from a counter. -/
def History.Drew (past : History) (counter : String) (number : Nat) : Prop :=
  Exchange.mk (.increment Layout.sequence counter "counter") (.ok number) ∈ past

/-- Lists of state servers have been read. -/
def StateServers.WereRead (servers : StateServers) (past : History) : Prop :=
  ∃ record, past.Found StateServersRecord.decode Layout.stateServers Layout.environmentKey record ∧
    record.servers = servers

/-- A template has passed the check against the constraints of the environment. -/
def Template.Accepted (raw : Template) (allowStateServer : Bool) (past : History)
    (template : Template) : Prop :=
  ∃ environment,
    past.Found Constraints.decode Layout.constraints Layout.environmentKey environment ∧
      raw.validate environment allowStateServer = .ok template

/-- A plan is that of a root machine. -/
def CreationPlan.IsRoot (raw : Template) (past : History) (plan : CreationPlan) : Prop :=
  ∃ template number, raw.Accepted true past template ∧
    past.Drew MachineId.rootCounter number ∧ plan = .ofRoot template (MachineId.root number)

/-- Machines that may be added to lists of state servers without upsetting the quorum. -/
inductive StateServers.Admits (limit : Nat) (servers : StateServers) (machines : List Machine) :
    Prop where
  /-- The machine "0" starts the lists. -/
  | first (hempty : servers.isEmpty = true) (hids : machines.map (·.id) = ["0"])
      (hlimit : 0 < limit)
  /-- Voters make the number of voters odd. -/
  | raised (hvote : ∀ machine ∈ machines, machine.hasVote = true)
      (hodd : (servers.votingMachineIds.length + machines.length) % 2 = 1)
      (hlimit : servers.votingMachineIds.length + machines.length ≤ limit)

/-- A transaction that a task of a controller with a limit on voters may submit. -/
inductive Submission (limit : Nat) (past : History) : List Op → Prop where
  | establish (uuid : Uuid) (constraints : Constraints) :
      Submission limit past
        [ (Environment.fresh uuid).insertOp, Environment.insertConstraintsOp constraints,
          StateServers.insertOp ]
  | destroy : Submission limit past [Environment.destroyOp]
  | setConstraints (constraints : Constraints) :
      Submission limit past
        [Environment.checkAliveOp, Environment.replaceConstraintsOp constraints]
  | report (id : String) (kinds : List ContainerType) :
      Submission limit past [Environment.checkAliveOp, Machine.reportOp id kinds]
  | roots (plans : List CreationPlan) (current : StateServers)
      (hplans : ∀ plan ∈ plans, ∃ raw, plan.IsRoot raw past)
      (hgrowth : (∀ plan ∈ plans, plan.machine.isStateServer = false) ∨
        current.WereRead past ∧ current.Admits limit (plans.map (·.machine))) :
      Submission limit past
        (Environment.checkAliveOp ::
          (plans.flatMap (·.ops) ++
            (StateServers.addOp? (plans.map (·.machine)) current).toList))
  | inside (raw template : Template) (parent : String) (kind : ContainerType) (number : Nat)
      (host : Machine) (haccepted : raw.Accepted false past template)
      (hinstance : raw.knownInstance? = none) (hkind : kind ≠ .noContainer)
      (hhost : past.Found Machine.decode Layout.machines parent host)
      (hsupports : host.supports kind = true)
      (hnumber : past.Drew (MachineId.containerCounter parent kind) number) :
      Submission limit past
        (Environment.checkAliveOp ::
          (CreationPlan.ofInside template parent kind
            (MachineId.container parent kind number)).ops)
  | insideNew (raw template rawParent parentTemplate : Template) (kind : ContainerType)
      (parentNumber number : Nat) (haccepted : raw.Accepted false past template)
      (hparent : rawParent.Accepted false past parentTemplate)
      (hinstance : raw.knownInstance? = none) (hparentInstance : rawParent.knownInstance? = none)
      (hkind : kind ≠ .noContainer) (hparentNumber : past.Drew MachineId.rootCounter parentNumber)
      (hnumber : past.Drew
        (MachineId.containerCounter (MachineId.root parentNumber) kind) number) :
      Submission limit past
        (Environment.checkAliveOp ::
          (CreationPlan.ofInsideNew template parentTemplate kind (MachineId.root parentNumber)
            (MachineId.container (MachineId.root parentNumber) kind number)).ops)

/-- A call that a task of a controller with a limit on voters may make. -/
def Lawful (limit : Nat) (past : History) : Call → Prop
  | .increment collection _ _ => collection = Layout.sequence
  | .transact ops => Submission limit past ops
  | _ => True

/-- The limit on voters under which a task works. -/
def Task.limit : Task → Nat
  | establish _ _ _ => 0
  | request controller _ => controller.maxPeers

variable {past later : History}

theorem History.Found.mono {α : Type} {decode : Decoder α} {collection id : String} {record : α}
    (h : past.Found decode collection id record) (hextend : past <+: later) :
    later.Found decode collection id record := by
  obtain ⟨document, hmem, hdecode⟩ := h
  exact ⟨document, hextend.subset hmem, hdecode⟩

theorem History.Drew.mono {counter : String} {number : Nat} (h : past.Drew counter number)
    (hextend : past <+: later) : later.Drew counter number :=
  hextend.subset h

theorem StateServers.WereRead.mono {servers : StateServers} (h : servers.WereRead past)
    (hextend : past <+: later) : servers.WereRead later := by
  obtain ⟨record, hfound, hservers⟩ := h
  exact ⟨record, hfound.mono hextend, hservers⟩

theorem StateServers.Admits.mono {limit limit' : Nat} {servers : StateServers}
    {machines : List Machine} (h : servers.Admits limit machines) (hle : limit ≤ limit') :
    servers.Admits limit' machines := by
  cases h with
  | first hempty hids hlimit => exact .first hempty hids (Nat.lt_of_lt_of_le hlimit hle)
  | raised hvote hodd hlimit => exact .raised hvote hodd (Nat.le_trans hlimit hle)

theorem Template.Accepted.mono {raw template : Template} {allowed : Bool}
    (h : raw.Accepted allowed past template) (hextend : past <+: later) :
    raw.Accepted allowed later template := by
  obtain ⟨environment, hfound, hvalidate⟩ := h
  exact ⟨environment, hfound.mono hextend, hvalidate⟩

theorem CreationPlan.IsRoot.mono {raw : Template} {plan : CreationPlan}
    (h : plan.IsRoot raw past) (hextend : past <+: later) : plan.IsRoot raw later := by
  obtain ⟨template, number, haccepted, hnumber, hplan⟩ := h
  exact ⟨template, number, haccepted.mono hextend, hnumber.mono hextend, hplan⟩

theorem CreationPlan.exists_ofRoot {plans : List CreationPlan}
    (hplans : ∀ plan ∈ plans, ∃ raw, plan.IsRoot raw past) :
    ∀ plan ∈ plans, ∃ template number, plan = .ofRoot template (MachineId.root number) := by
  intro plan hplan
  obtain ⟨raw, template, number, -, -, heq⟩ := hplans plan hplan
  exact ⟨template, number, heq⟩

/-- What may be submitted may still be submitted after having learned more. -/
theorem Submission.mono {limit : Nat} {ops : List Op} (h : Submission limit past ops)
    (hextend : past <+: later) : Submission limit later ops := by
  cases h with
  | establish uuid constraints => exact .establish uuid constraints
  | destroy => exact .destroy
  | setConstraints constraints => exact .setConstraints constraints
  | report id kinds => exact .report id kinds
  | roots plans current hplans hgrowth =>
    refine .roots plans current ?_ (hgrowth.imp id fun hread => ⟨hread.1.mono hextend, hread.2⟩)
    intro plan hplan
    obtain ⟨raw, hroot⟩ := hplans plan hplan
    exact ⟨raw, hroot.mono hextend⟩
  | inside raw template parent kind number host haccepted hinstance hkind hhost hsupports hnumber =>
    exact .inside raw template parent kind number host (haccepted.mono hextend) hinstance hkind
      (hhost.mono hextend) hsupports (hnumber.mono hextend)
  | insideNew raw template rawParent parentTemplate kind parentNumber number haccepted hparent
      hinstance hparentInstance hkind hparentNumber hnumber =>
    exact .insideNew raw template rawParent parentTemplate kind parentNumber number
      (haccepted.mono hextend) (hparent.mono hextend) hinstance hparentInstance hkind
      (hparentNumber.mono hextend) (hnumber.mono hextend)

namespace Template

/-- Checking a template leaves its jobs and its vote as they are. -/
theorem jobs_of_validate {raw template : Template} {environment : Constraints} {allowed : Bool}
    (h : raw.validate environment allowed = .ok template) :
    template.jobs = raw.jobs ∧ template.noVote = raw.noVote ∧
      (raw.jobs.contains .manageEnviron && !allowed) = false := by
  unfold validate at h
  simp only [bind, Except.bind, pure, Except.pure, throw, throwThe, MonadExceptOf.throw] at h
  split at h
  · cases h
  split at h
  · cases h
  split at h
  · cases h
  split at h
  · cases h
  · next hallowed =>
    have hallowed := Bool.eq_false_iff.mpr hallowed
    -- Only where the instance and the nonce agree is there a result at all.
    split at h
    · cases h
    · cases h
    · cases h
      exact ⟨rfl, rfl, hallowed⟩
    · cases h
      exact ⟨rfl, rfl, hallowed⟩

/-- The machine of a template is a state server if the template asks for one. -/
theorem Accepted.isStateServer_eq {raw template : Template} {allowed : Bool}
    (h : raw.Accepted allowed past template) (id : String) (kind : Option ContainerType) :
    (template.machine id kind).isStateServer = raw.jobs.contains .manageEnviron := by
  obtain ⟨environment, -, hvalidate⟩ := h
  change template.jobs.contains .manageEnviron = _
  rw [(jobs_of_validate hvalidate).1]

theorem Accepted.noVote_eq {raw template : Template} {allowed : Bool}
    (h : raw.Accepted allowed past template) (id : String) (kind : Option ContainerType) :
    (template.machine id kind).noVote = raw.noVote := by
  obtain ⟨environment, -, hvalidate⟩ := h
  exact (jobs_of_validate hvalidate).2.1

/-- Where no state server is allowed, the machine is none. -/
theorem Accepted.isStateServer_eq_false {raw template : Template}
    (h : raw.Accepted false past template) (id : String) (kind : Option ContainerType) :
    (template.machine id kind).isStateServer = false := by
  rw [h.isStateServer_eq]
  obtain ⟨environment, -, hvalidate⟩ := h
  have hallowed := (jobs_of_validate hvalidate).2.2
  rwa [Bool.not_false, Bool.and_true] at hallowed

end Template

end ControlPlane
