import ControlPlane.Proofs.Run.Submission
import ControlPlane.Proofs.StateServers.Adding

/-!
# What requests do

Each procedure is given the facts that hold when it has its result, and with
them it is shown to submit nothing but the transactions of `Submission`.
-/

namespace ControlPlane

open Json Store Procedure

variable {limit : Nat} {past : History}

section Reading

variable {α : Type}

theorem fetch?_meets (decode : Decoder α) (collection key : String) :
    Meets (Lawful limit) past (fetch? decode collection key) fun later record? =>
      ∀ record, record? = some record → later.Found decode collection key record := by
  unfold fetch?
  apply (meets_ask trivial).bind
  rintro asked answer - rfl
  cases answer with
  | error failure => exact meets_throw failure.toError
  | ok document? =>
    cases document? with
    | none => exact meets_pure nofun
    | some document =>
      have hmem : Exchange.mk (.get collection key) (.ok (some document)) ∈
          past ++ [⟨.get collection key, .ok (some document)⟩] := by simp
      apply (meets_decoded decode document).bind
      intro later record hextend hrecord
      apply meets_pure
      rintro _ ⟨⟩
      exact ⟨document, hextend.subset hmem, hrecord⟩

theorem fetch_meets (decode : Decoder α) (type : ResourceType) (collection key : String) :
    Meets (Lawful limit) past (fetch decode type collection key) fun later record =>
      later.Found decode collection key record := by
  unfold fetch
  apply (fetch?_meets decode collection key).bind
  intro later record? _ hfound
  cases record? with
  | none => exact meets_throw _
  | some record => exact meets_pure (hfound record rfl)

end Reading

theorem nextNumber_meets (counter : String) :
    Meets (Lawful limit) past (nextNumber counter) fun later number =>
      later.Drew counter number := by
  unfold nextNumber
  apply Meets.inContext
  apply (meets_ask rfl).bind
  rintro asked answer - rfl
  apply (meets_answered answer).mono
  rintro later number hextend rfl
  exact hextend.subset (by simp)

theorem transact_meets {ops : List Op} (h : Submission limit past ops) :
    Meets (Lawful limit) past (ask (.transact ops)) fun later answer =>
      later = past ++ [⟨.transact ops, answer⟩] :=
  meets_ask h

namespace MachineId

theorem nextRoot_meets :
    Meets (Lawful limit) past nextRoot fun later id =>
      ∃ number, later.Drew rootCounter number ∧ id = root number := by
  apply Meets.map
  apply (nextNumber_meets rootCounter).mono
  intro later number _ hnumber
  exact ⟨number, hnumber, rfl⟩

theorem nextContainer_meets (parent : String) (kind : ContainerType) :
    Meets (Lawful limit) past (nextContainer parent kind) fun later id =>
      ∃ number, later.Drew (containerCounter parent kind) number ∧
        id = container parent kind number := by
  apply Meets.map
  apply (nextNumber_meets (containerCounter parent kind)).mono
  intro later number _ hnumber
  exact ⟨number, hnumber, rfl⟩

end MachineId

theorem precheck_meets (series : String) (constraints : Constraints) :
    Meets (Lawful limit) past (precheck series constraints) fun _ _ => True := by
  unfold precheck
  apply (meets_ask trivial).bind
  rintro asked answer - rfl
  split
  · exact meets_throw _
  · exact meets_pure trivial
  · apply (meets_ask trivial).bind
    rintro later verdict - rfl
    split
    · exact meets_pure trivial
    · exact meets_throw _

namespace Environment

theorem fetch_meets :
    Meets (Lawful limit) past fetch fun later environment =>
      later.Found decode Layout.environments Layout.environmentKey environment := by
  unfold fetch
  apply (fetch?_meets decode Layout.environments Layout.environmentKey).bind
  intro later environment? _ hfound
  cases environment? with
  | none => exact meets_throw _
  | some environment => exact meets_pure (hfound environment rfl)

theorem requireAlive_meets :
    Meets (Lawful limit) past requireAlive fun later _ => ∃ environment : Environment,
      later.Found decode Layout.environments Layout.environmentKey environment ∧
        environment.life = .alive := by
  unfold requireAlive
  apply fetch_meets.bind
  intro later environment _ hfound
  split
  · exact meets_throw _
  · next halive => exact meets_pure ⟨environment, hfound, not_not.mp halive⟩

theorem destroy_meets : Meets (Lawful limit) past destroy fun _ _ => True := by
  unfold destroy
  apply fetch_meets.bind
  intro later environment _ _
  split
  · exact meets_pure trivial
  · apply (transact_meets .destroy).bind
    intro final answer _ _
    split
    · exact meets_pure trivial
    · exact meets_pure trivial
    · exact meets_throw _

end Environment

/-- A task commits operations that it may submit together with the check of the environment. -/
theorem commit_meets {ops : List Op} (h : Submission limit past (Environment.checkAliveOp :: ops)) :
    Meets (Lawful limit) past (commit ops) fun _ _ => True := by
  unfold commit
  apply Environment.requireAlive_meets.bind
  intro later _ hextend _
  apply (transact_meets (h.mono hextend)).bind
  intro asked answer _ _
  split
  · exact meets_pure trivial
  · apply Environment.fetch_meets.attempt.bind
    intro final environment? _ _
    split
    · split
      · exact meets_throw _
      · exact meets_throw _
    · exact meets_throw _
    · exact meets_throw _

namespace Environment

theorem constraints_meets :
    Meets (Lawful limit) past constraints fun later constraints =>
      later.Found Constraints.decode Layout.constraints Layout.environmentKey constraints :=
  ControlPlane.fetch_meets ..

theorem setConstraints_meets (constraints : Constraints) :
    Meets (Lawful limit) past (setConstraints constraints) fun _ _ => True :=
  commit_meets (.setConstraints constraints)

end Environment

namespace StateServers

theorem fetch_meets :
    Meets (Lawful limit) past fetch fun later servers => servers.WereRead later := by
  unfold fetch
  apply Meets.map
  apply (ControlPlane.fetch_meets StateServersRecord.decode .stateServerInfo Layout.stateServers
    Layout.environmentKey).mono
  intro later record _ hfound
  exact ⟨record, hfound, rfl⟩

end StateServers

namespace Template

theorem effective_meets (raw : Template) (allowed : Bool) :
    Meets (Lawful limit) past (raw.effective allowed) fun later template =>
      raw.Accepted allowed later template := by
  unfold effective
  apply Environment.constraints_meets.bind
  intro later environment _ hfound
  split
  · next template hvalidate => exact meets_pure ⟨environment, hfound, hvalidate⟩
  · exact meets_throw _

theorem knownInstance?_of_refuseInstance {raw : Template} (h : raw.refuseInstance = .ok ()) :
    raw.knownInstance? = none := by
  unfold refuseInstance at h
  split at h
  · cases h
  · next hinstance => simpa using hinstance

end Template

namespace CreationPlan

theorem ne_noContainer_of_requireContainer {kind : ContainerType}
    (h : requireContainer kind = .ok ()) : kind ≠ .noContainer := by
  unfold requireContainer at h
  split at h
  · cases h
  · assumption

theorem root_meets (raw : Template) :
    Meets (Lawful limit) past (root raw) fun later plan => plan.IsRoot raw later := by
  unfold root
  apply (raw.effective_meets true).bind
  intro checked template _ haccepted
  -- The number is drawn in the same way whether or not there was something to check.
  have hdraw : ∀ later, checked <+: later →
      Meets (Lawful limit) later (do return ofRoot template (← MachineId.nextRoot))
        fun later plan => plan.IsRoot raw later := by
    intro later hlater
    apply MachineId.nextRoot_meets.bind
    rintro drawn id hdrawn ⟨number, hnumber, rfl⟩
    exact meets_pure ⟨template, number, haccepted.mono (hlater.trans hdrawn), hnumber, rfl⟩
  split
  · apply (precheck_meets template.series template.constraints).bind
    intro later _ hlater _
    exact hdraw later hlater
  · exact hdraw checked (List.prefix_refl checked)

theorem roots_meets_each (raws : List Template) :
    Meets (Lawful limit) past (raws.mapM root) fun later plans =>
      List.Forall₂ (fun raw plan => plan.IsRoot raw later) raws plans := by
  have hroot : ∀ raw ∈ raws, ∀ later, past <+: later →
      Meets (Lawful limit) later (root raw) fun final plan => IsRoot raw final plan :=
    fun raw _ _ _ => root_meets raw
  apply meets_mapM _ hroot
  intro raw past later plan hextend h
  exact h.mono hextend

theorem exists_raw_of_forall₂ {raws : List Template} {plans : List CreationPlan}
    (h : List.Forall₂ (fun raw plan => plan.IsRoot raw past) raws plans) :
    ∀ plan ∈ plans, ∃ raw ∈ raws, plan.IsRoot raw past := by
  intro plan hplan
  obtain ⟨index, hindex, rfl⟩ := List.getElem_of_mem hplan
  have hraw : index < raws.length := h.length_eq ▸ hindex
  exact ⟨raws[index], List.getElem_mem hraw, h.get hraw hindex⟩

theorem roots_meets (raws : List Template) :
    Meets (Lawful limit) past (raws.mapM root) fun later plans =>
      plans.length = raws.length ∧ ∀ plan ∈ plans, ∃ raw ∈ raws, plan.IsRoot raw later :=
  (roots_meets_each raws).mono fun _ _ _ hroots =>
    ⟨hroots.length_eq.symm, exists_raw_of_forall₂ hroots⟩

/-- A plan is that of a container on a host that was found to support it. -/
structure IsInside (raw : Template) (parent : String) (kind : ContainerType) (past : History)
    (template : Template) (number : Nat) (host : Machine) : Prop where
  accepted : raw.Accepted false past template
  instance_eq : raw.knownInstance? = none
  kind_ne : kind ≠ .noContainer
  found : past.Found Machine.decode Layout.machines parent host
  supports : host.supports kind = true
  drew : past.Drew (MachineId.containerCounter parent kind) number

/-- A plan is that of a container and its host. -/
structure IsInsideNew (raw rawParent : Template) (kind : ContainerType) (past : History)
    (template parentTemplate : Template) (parentNumber number : Nat) : Prop where
  accepted : raw.Accepted false past template
  parent : rawParent.Accepted false past parentTemplate
  instance_eq : raw.knownInstance? = none
  parentInstance_eq : rawParent.knownInstance? = none
  kind_ne : kind ≠ .noContainer
  parentDrew : past.Drew MachineId.rootCounter parentNumber
  drew : past.Drew (MachineId.containerCounter (MachineId.root parentNumber) kind) number

/-- What the planning of a container has learned, and its plan. -/
theorem inside_meets (raw : Template) (parent : String) (kind : ContainerType) :
    Meets (Lawful limit) past (inside raw parent kind) fun later plan =>
      ∃ template number host, IsInside raw parent kind later template number host ∧
        plan = ofInside template parent kind (MachineId.container parent kind number) := by
  unfold inside
  apply (meets_liftM raw.refuseInstance).bind
  intro _ _ _ hinstance
  apply (raw.effective_meets false).bind
  intro checked template _ haccepted
  apply (meets_liftM (requireContainer kind)).bind
  intro named _ hnamed hkind
  apply (fetch_meets Machine.decode .machine Layout.machines parent).bind
  intro found host hfound hhost
  apply Meets.unless
  intro hsupports
  apply (MachineId.nextContainer_meets parent kind).bind
  rintro drawn id hdrawn ⟨number, hnumber, rfl⟩
  apply meets_pure
  refine ⟨template, number, host, ?_, rfl⟩
  exact ⟨haccepted.mono (hnamed.trans (hfound.trans hdrawn)),
    Template.knownInstance?_of_refuseInstance hinstance,
    ne_noContainer_of_requireContainer hkind, hhost.mono hdrawn, by simpa using hsupports,
    hnumber⟩

/-- What the planning of a container with its host has learned, and its plan. -/
theorem insideNew_meets (raw rawParent : Template) (kind : ContainerType) :
    Meets (Lawful limit) past (insideNew raw rawParent kind) fun later plan =>
      ∃ template parentTemplate parentNumber number,
        IsInsideNew raw rawParent kind later template parentTemplate parentNumber number ∧
          plan = ofInsideNew template parentTemplate kind (MachineId.root parentNumber)
            (MachineId.container (MachineId.root parentNumber) kind number) := by
  unfold insideNew
  apply (meets_liftM raw.refuseInstance).bind
  intro _ _ _ hinstance
  apply (meets_liftM rawParent.refuseInstance).bind
  intro _ _ _ hparentInstance
  apply (rawParent.effective_meets false).bind
  intro parentChecked parentTemplate _ hparent
  apply (meets_liftM (requireContainer kind)).bind
  intro named _ hnamed hkind
  apply (raw.effective_meets false).bind
  intro checked template hchecked haccepted
  apply (precheck_meets parentTemplate.series parentTemplate.constraints).bind
  intro prechecked _ hprechecked _
  apply MachineId.nextRoot_meets.bind
  rintro parentDrawn _ hparentDrawn ⟨parentNumber, hparentNumber, rfl⟩
  apply (MachineId.nextContainer_meets (MachineId.root parentNumber) kind).bind
  rintro drawn _ hdrawn ⟨number, hnumber, rfl⟩
  have hafter : checked <+: drawn := hprechecked.trans (hparentDrawn.trans hdrawn)
  apply meets_pure
  refine ⟨template, parentTemplate, parentNumber, number, ?_, rfl⟩
  exact ⟨haccepted.mono hafter, hparent.mono (hnamed.trans (hchecked.trans hafter)),
    Template.knownInstance?_of_refuseInstance hinstance,
    Template.knownInstance?_of_refuseInstance hparentInstance,
    ne_noContainer_of_requireContainer hkind, hparentNumber.mono hdrawn, hnumber⟩

theorem IsInside.submission {raw template : Template} {parent : String} {kind : ContainerType}
    {number : Nat} {host : Machine} (h : IsInside raw parent kind past template number host) :
    Submission limit past (Environment.checkAliveOp ::
      (ofInside template parent kind (MachineId.container parent kind number)).ops) :=
  .inside raw template parent kind number host h.accepted h.instance_eq h.kind_ne h.found
    h.supports h.drew

theorem IsInsideNew.submission {raw rawParent template parentTemplate : Template}
    {kind : ContainerType} {parentNumber number : Nat}
    (h : IsInsideNew raw rawParent kind past template parentTemplate parentNumber number) :
    Submission limit past (Environment.checkAliveOp ::
      (ofInsideNew template parentTemplate kind (MachineId.root parentNumber)
        (MachineId.container (MachineId.root parentNumber) kind number)).ops) :=
  .insideNew raw template rawParent parentTemplate kind parentNumber number h.accepted h.parent
    h.instance_eq h.parentInstance_eq h.kind_ne h.parentDrew h.drew

end CreationPlan

namespace StateServers

/-- Lists to which machines are added on request: either none of the machines is a state server, or
the machine "0" is the only one, and the lists have been read and are empty. -/
def Bootstraps (current : StateServers) (machines : List Machine) (past : History) : Prop :=
  (∀ machine ∈ machines, machine.isStateServer = false) ∨
    machines.map (·.id) = ["0"] ∧ current.WereRead past ∧ current.isEmpty = true

theorem bootstrapOps_meets_bootstraps (machines : List Machine) :
    Meets (Lawful limit) past (bootstrapOps machines) fun later ops =>
      ∃ current, ops = (addOp? machines current).toList ∧ current.Bootstraps machines later := by
  unfold bootstrapOps
  split
  · next hnone =>
    have hnone : ∀ machine ∈ machines, machine.isStateServer = false := by simpa using hnone
    apply meets_pure
    refine ⟨{}, ?_, .inl hnone⟩
    rw [addOp?_eq_none_iff.mpr hnone]
    rfl
  · apply Meets.unless
    intro hids
    apply (fetch_meets.inContext _).bind
    intro later current _ hread
    apply Meets.unless
    intro hempty
    exact meets_pure ⟨current, rfl, .inr ⟨not_not.mp hids, hread, by simpa using hempty⟩⟩

theorem bootstrapOps_meets (hlimit : 0 < limit) (machines : List Machine) :
    Meets (Lawful limit) past (bootstrapOps machines) fun later ops =>
      ∃ current, ops = (addOp? machines current).toList ∧
        ((∀ machine ∈ machines, machine.isStateServer = false) ∨
          current.WereRead later ∧ current.Admits limit machines) := by
  apply (bootstrapOps_meets_bootstraps machines).mono
  rintro later ops - ⟨current, hops, hbootstraps⟩
  refine ⟨current, hops, hbootstraps.imp_right ?_⟩
  rintro ⟨hids, hread, hempty⟩
  exact ⟨hread, .first hempty hids hlimit⟩

end StateServers

namespace Machine

theorem addAll_meets (hlimit : 0 < limit) (raws : List Template) :
    Meets (Lawful limit) past (addAll raws) fun _ _ => True := by
  unfold addAll
  apply Meets.inContext
  apply Environment.requireAlive_meets.bind
  intro alive _ _ _
  apply (CreationPlan.roots_meets raws).bind
  rintro planned plans - ⟨-, hplans⟩
  apply (StateServers.bootstrapOps_meets hlimit (plans.map (·.machine))).bind
  rintro later _ hlater ⟨current, rfl, hgrowth⟩
  have hsubmission := Submission.roots plans current
    (fun plan hplan => (hplans plan hplan).imp fun raw hraw => hraw.2.mono hlater)
    (hgrowth.imp_left fun hnone => by simpa using hnone)
  apply (commit_meets hsubmission).bind
  intro _ _ _ _
  exact meets_pure trivial

theorem add_meets (hlimit : 0 < limit) (raw : Template) :
    Meets (Lawful limit) past (add raw) fun _ _ => True := by
  unfold add
  apply (addAll_meets hlimit [raw]).bind
  intro later machines _ _
  split
  · exact meets_pure trivial
  · exact meets_throw _

theorem addInside_meets (raw : Template) (parent : String) (kind : ContainerType) :
    Meets (Lawful limit) past (addInside raw parent kind) fun _ _ => True := by
  unfold addInside
  apply Environment.requireAlive_meets.bind
  intro alive _ _ _
  apply (CreationPlan.inside_meets raw parent kind).bind
  rintro later _ - ⟨template, number, host, hplan, rfl⟩
  apply (commit_meets hplan.submission).bind
  intro _ _ _ _
  exact meets_pure trivial

theorem addInsideNew_meets (raw rawParent : Template) (kind : ContainerType) :
    Meets (Lawful limit) past (addInsideNew raw rawParent kind) fun _ _ => True := by
  unfold addInsideNew
  apply Environment.requireAlive_meets.bind
  intro alive _ _ _
  apply (CreationPlan.insideNew_meets raw rawParent kind).bind
  rintro later _ - ⟨template, parentTemplate, parentNumber, number, hplan, rfl⟩
  apply (commit_meets hplan.submission).bind
  intro _ _ _ _
  exact meets_pure trivial

theorem setSupportedContainers_meets (id : String) (kinds : List ContainerType) :
    Meets (Lawful limit) past (setSupportedContainers id kinds) fun _ _ => True := by
  unfold setSupportedContainers
  apply Meets.unless
  intro _
  apply (commit_meets (.report id kinds)).attempt.bind
  intro later result _ _
  split
  · exact meets_pure trivial
  · apply (fetch_meets Machine.decode .machine Layout.machines id).bind
    intro _ machine _ _
    split
    · exact meets_throw _
    · exact meets_throw _

end Machine

namespace Controller

/-- The voters that are missing bring the number of voters up to an odd target. -/
theorem target_of_missingVoters {maxPeers target voters missing : Nat}
    (h : missingVoters maxPeers target voters = .ok missing) :
    target % 2 = 1 ∧ target ≤ maxPeers ∧ voters + missing = target := by
  unfold missingVoters at h
  split at h
  · cases h
  split at h
  · cases h
  split at h
  · cases h
  · cases h
    omega

theorem hasVote_of_isRoot {series : String} {constraints : Constraints} {plan : CreationPlan}
    (h : plan.IsRoot (serverTemplate series constraints) past) : plan.machine.hasVote = true := by
  obtain ⟨template, number, haccepted, -, rfl⟩ := h
  have hserver := haccepted.isStateServer_eq (MachineId.root number) none
  have hvote := haccepted.noVote_eq (MachineId.root number) none
  change ((template.machine (MachineId.root number) none).isStateServer &&
    !(template.machine (MachineId.root number) none).noVote) = true
  rw [hserver, hvote]
  rfl

theorem ensureAvailability_meets (controller : Controller) (target : Nat)
    (constraints : Constraints) (series : String) :
    Meets (Lawful controller.maxPeers) past
      (controller.ensureAvailability target constraints series) fun _ _ => True := by
  unfold ensureAvailability
  apply (meets_liftM (missingVoters controller.maxPeers target 0)).bind
  intro _ _ _ _
  apply Environment.requireAlive_meets.bind
  intro alive _ _ _
  apply StateServers.fetch_meets.bind
  intro read current _ hread
  apply (meets_liftM _).bind
  intro counted missing hcounted hmissing
  obtain ⟨hodd, hle, hsum⟩ := target_of_missingVoters hmissing
  split
  · exact meets_pure trivial
  · apply (CreationPlan.roots_meets _).bind
    rintro later plans hlater ⟨hlength, hplans⟩
    apply Meets.unless
    intro _
    rw [List.length_replicate] at hlength
    have hserver : ∀ plan ∈ plans, plan.IsRoot (serverTemplate series constraints) later := by
      intro plan hplan
      obtain ⟨raw, hraw, hroot⟩ := hplans plan hplan
      exact List.eq_of_mem_replicate hraw ▸ hroot
    have hgrowth : current.Admits controller.maxPeers (plans.map (·.machine)) := by
      refine .raised ?_ ?_ ?_
      · intro machine hmachine
        obtain ⟨plan, hplan, rfl⟩ := List.mem_map.mp hmachine
        exact hasVote_of_isRoot (hserver plan hplan)
      · rw [List.length_map, hlength, hsum]
        exact hodd
      · rw [List.length_map, hlength, hsum]
        exact hle
    have hsubmission := Submission.roots plans current
      (fun plan hplan => ⟨_, hserver plan hplan⟩)
      (.inr ⟨hread.mono (hcounted.trans hlater), hgrowth⟩)
    exact (commit_meets hsubmission).inContext _

end Controller

/-- Whatever a controller is asked to do, it makes lawful calls only. -/
theorem Request.procedure_meets (controller : Controller) (asked : Request) :
    Meets (Lawful controller.maxPeers) past (asked.procedure controller) fun _ _ => True := by
  have hlimit : 0 < controller.maxPeers := by
    have hodd := controller.odd
    omega
  cases asked with
  | environment => exact Environment.fetch_meets.mono fun _ _ _ _ => trivial
  | environmentConstraints => exact Environment.constraints_meets.mono fun _ _ _ _ => trivial
  | setEnvironmentConstraints constraints => exact Environment.setConstraints_meets constraints
  | destroyEnvironment => exact Environment.destroy_meets
  | nextNumber counter => exact (nextNumber_meets counter).mono fun _ _ _ _ => trivial
  | stateServers => exact StateServers.fetch_meets.mono fun _ _ _ _ => trivial
  | ensureAvailability target constraints series =>
    exact controller.ensureAvailability_meets target constraints series
  | machine id => exact (fetch_meets ..).mono fun _ _ _ _ => trivial
  | containers id => exact ((fetch_meets ..).mono fun _ _ _ _ => trivial).map
  | machineConstraints id => exact (fetch_meets ..).mono fun _ _ _ _ => trivial
  | machineStatus id => exact (fetch_meets ..).mono fun _ _ _ _ => trivial
  | instanceData id => exact (fetch_meets ..).mono fun _ _ _ _ => trivial
  | setSupportedContainers id kinds => exact Machine.setSupportedContainers_meets id kinds
  | addMachines raws => exact Machine.addAll_meets hlimit raws
  | addMachine raw => exact Machine.add_meets hlimit raw
  | addInside raw parent kind => exact Machine.addInside_meets raw parent kind
  | addInsideNew raw rawParent kind => exact Machine.addInsideNew_meets raw rawParent kind

namespace Task

/-- Every task makes lawful calls only. -/
theorem procedure_meets (task : Task) :
    Meets (Lawful task.limit) past task.procedure fun _ _ => True := by
  cases task with
  | request controller asked => exact asked.procedure_meets controller
  | establish quorum uuid constraints =>
    change Meets _ past (Controller.establish quorum uuid constraints) _
    unfold Controller.establish
    apply (meets_liftM (Controller.attach quorum)).bind
    intro _ controller _ _
    apply (transact_meets (.establish uuid constraints)).bind
    intro _ answer _ _
    split
    · exact meets_pure trivial
    · exact meets_throw _
    · exact meets_throw _

end Task

end ControlPlane
