import ControlPlane.Proofs.Run.Duties
import ControlPlane.Proofs.Run.Timeline

/-!
# How each request ends

Every request is carried through its preparations to the one transaction that
it submits, and past it to its result or to its error.
-/

namespace ControlPlane

open Json Store Procedure

/-- The request adds state servers, if it adds any machines. -/
def Request.AddsServers : Request → Prop
  | ensureAvailability _ _ _ => True
  | addMachines raws => ∃ raw ∈ raws, Job.manageEnviron ∈ raw.jobs
  | addMachine raw => Job.manageEnviron ∈ raw.jobs
  | _ => False

/-- The task adds state servers, if it adds any machines. -/
def Task.AddsServers : Task → Prop
  | establish _ _ _ => False
  | request _ asked => asked.AddsServers

/-- A transaction that fits its task: the machines it adds have different ids, and who changes the
lists of state servers or the record of a machine is meant to do so. -/
structure Task.Admits (task : Task) (past : History) (ops : List Op) : Prop where
  distinct : (past.drawn MachineId.rootCounter).Nodup →
    ((Op.inserted Layout.machines ops).map (·.1)).Nodup
  servers : ∀ op ∈ ops, op.names Layout.stateServers Layout.environmentKey = true →
    (∃ updates, op.effect = .update updates) → task.AddsServers
  report : ∀ op ∈ ops, op.collection = Layout.machines →
    (∃ updates, op.effect = .update updates) →
    ∃ controller kinds, task = .request controller (.setSupportedContainers op.id kinds)

variable {past later : History} {admits : History → List Op → Prop} {lost : History → Prop}

/-- A commit succeeds where its transaction takes place, and fails for a lost race only where the
environment is still alive. -/
theorem commit_ends {ops : List Op} (hquiet : past.submissions = [])
    (hadmits : ∀ later, past <+: later → admits later (Environment.checkAliveOp :: ops)) :
    Ends (Disciplined admits) past (commit ops)
      (fun later _ => later.submissions = [(Environment.checkAliveOp :: ops, .ok ())])
      (Failed (History.LostRace ops)) := by
  unfold commit
  apply (Environment.prepares_requireAlive.disciplined hquiet
    Environment.requireAlive_meets_read).bind
  rintro checked _ hextend ⟨hquiet, document, environment, hread, hdecode, -⟩
  have hfound := hread.found hdecode
  apply (ends_transact hquiet (hadmits checked hextend)).bind
  rintro asked answer - ⟨rfl, hsubmissions⟩
  cases answer with
  | ok _ => exact ends_pure hsubmissions
  | error failure =>
    have hrefused : ∀ submission ∈ History.submissions (checked ++
        [⟨.transact (Environment.checkAliveOp :: ops), .error failure⟩]),
        submission.2 ≠ .ok () := by
      rw [hsubmissions]
      simp
    have hreread : Ends (Disciplined admits) _ Environment.fetch _
        (Failed (History.LostRace ops)) :=
      Environment.prepares_fetch.refused hrefused Environment.fetch_meets_read
    apply hreread.attempt.bind
    intro later result hextend' hresult
    cases result with
    | ok environment' =>
      obtain ⟨hsame, document', hread', hdecode'⟩ := hresult
      rw [← hsame] at hrefused
      dsimp only
      split
      · next halive =>
        have hmem : (⟨.transact (Environment.checkAliveOp :: ops), .error failure⟩ : Exchange) ∈
            later := hextend'.subset (by simp)
        refine ends_throw ⟨hrefused, .failure hmem rfl, fun haborted => .inr ?_⟩
        rw [StoreError.isAborted_toError] at haborted
        exact ⟨checked, environment, environment', failure, document', hfound, haborted, hread',
          hdecode', halive⟩
      · exact ends_throw (failed_of_isPlain rfl hrefused)
    | error error =>
      have hfailed : Failed (History.LostRace ops) later error := hresult
      cases error with
      | objectNotFound type lookup => exact ends_throw (failed_of_isPlain rfl hfailed.refused)
      | _ => exact ends_throw hfailed

/-! ## What is submitted fits its task -/

section Fitting

variable {task : Task}

theorem Task.admits_of_batch {machines : List Machine} {current : StateServers} {ops : List Op}
    (hbatch : Batch machines current ops)
    (hids : (past.drawn MachineId.rootCounter).Nodup → (machines.map (·.id)).Nodup)
    (hservers : ∀ machine ∈ machines, machine.isStateServer = true → task.AddsServers) :
    task.Admits past (Environment.checkAliveOp :: ops) where
  distinct hdrawn := by
    have halive : Environment.checkAliveOp.collection ≠ Layout.machines := by decide
    rw [Op.inserted_cons_of_ne halive, hbatch.inserted_eq, List.map_map]
    exact hids hdrawn
  servers op hop hnames hupdate := by
    rcases List.mem_cons.mp hop with rfl | hop
    · exact absurd hnames (by decide)
    · have hmem : op ∈ (StateServers.addOp? machines current).toList := by
        rw [← hbatch.servers_eq]
        exact List.mem_filter.mpr ⟨hop, hnames⟩
      by_contra hnone
      have hplain : ∀ machine ∈ machines, machine.isStateServer = false := fun machine hmachine =>
        Bool.eq_false_iff.mpr fun hserver => hnone (hservers machine hmachine hserver)
      rw [StateServers.addOp?_eq_none_iff.mpr hplain] at hmem
      cases hmem
  report op hop hcollection hupdate := by
    rcases List.mem_cons.mp hop with rfl | hop
    · exact absurd hcollection (by decide)
    · obtain ⟨document, hinsert⟩ := hbatch.onlyInsert op hop hcollection
      obtain ⟨updates, hupdate⟩ := hupdate
      rw [hinsert] at hupdate
      cases hupdate

/-- A transaction that is not about machines and state servers fits every task. -/
theorem Task.admits_of_elsewhere {ops : List Op}
    (hops : ∀ op ∈ ops, op.collection ≠ Layout.machines ∧
      (op.collection = Layout.stateServers → ∃ document, op.effect = .insert document)) :
    task.Admits past ops where
  distinct _ := by
    rw [Op.inserted_eq_nil fun op hop => (hops op hop).1]
    exact List.nodup_nil
  servers op hop hnames hupdate := by
    obtain ⟨document, hinsert⟩ := (hops op hop).2 (Op.names_iff.mp hnames).1
    obtain ⟨updates, hupdate⟩ := hupdate
    rw [hinsert] at hupdate
    cases hupdate
  report op hop hcollection _ := absurd hcollection (hops op hop).1

namespace CreationPlan

variable {plans : List CreationPlan} {raws : List Template}

/-- Plans of root machines with numbers of their own fit a task that may add the state servers
among them. -/
theorem admits_roots (hnumbered : Numbered plans past)
    (hplans : ∀ plan ∈ plans, ∃ raw ∈ raws, plan.IsRoot raw past)
    (hservers : ∀ raw ∈ raws, Job.manageEnviron ∈ raw.jobs → task.AddsServers)
    (current : StateServers) :
    task.Admits past (Environment.checkAliveOp :: (plans.flatMap (·.ops) ++
      (StateServers.addOp? (plans.map (·.machine)) current).toList)) := by
  have hroot := exists_ofRoot fun plan hplan => (hplans plan hplan).imp fun raw hraw => hraw.2
  apply Task.admits_of_batch (batch_of_roots hroot current)
  · intro hdrawn
    have hids := hnumbered.nodup hdrawn
    rwa [List.map_map]
  · intro machine hmachine hserver
    obtain ⟨plan, hplan, rfl⟩ := List.mem_map.mp hmachine
    obtain ⟨raw, hraw, template, number, haccepted, -, rfl⟩ := hplans plan hplan
    have hjobs := haccepted.isStateServer_eq (MachineId.root number) none
    apply hservers raw hraw
    rw [← List.contains_iff_mem, ← hjobs]
    exact hserver

theorem admits_ofInside {raw template : Template} {parent : String} {kind : ContainerType}
    {number : Nat} {host : Machine} (h : IsInside raw parent kind past template number host)
    (later : History) : task.Admits later (Environment.checkAliveOp ::
      (ofInside template parent kind (MachineId.container parent kind number)).ops) := by
  have hserver := h.accepted.isStateServer_eq_false (MachineId.container parent kind number)
    (some kind)
  apply Task.admits_of_batch (batch_of_inside parent hserver)
  · intro _
    exact List.nodup_singleton _
  · intro machine hmachine hmanages
    rw [List.mem_singleton.mp hmachine, hserver] at hmanages
    cases hmanages

theorem admits_ofInsideNew {raw rawParent template parentTemplate : Template}
    {kind : ContainerType} {parentNumber number : Nat}
    (h : IsInsideNew raw rawParent kind past template parentTemplate parentNumber number)
    (later : History) : task.Admits later (Environment.checkAliveOp ::
      (ofInsideNew template parentTemplate kind (MachineId.root parentNumber)
        (MachineId.container (MachineId.root parentNumber) kind number)).ops) := by
  have hparent := h.parent.isStateServer_eq_false (MachineId.root parentNumber) none
  have hserver := h.accepted.isStateServer_eq_false
    (MachineId.container (MachineId.root parentNumber) kind number) (some kind)
  apply Task.admits_of_batch (batch_of_insideNew hparent hserver)
  · intro _
    have hne := MachineId.container_ne_parent (MachineId.root parentNumber) kind number
    have hnew : MachineId.root parentNumber ∉
        [MachineId.container (MachineId.root parentNumber) kind number] := by
      simpa using hne.symm
    exact List.nodup_cons.mpr ⟨hnew, List.nodup_singleton _⟩
  · intro machine hmachine hmanages
    simp only [List.mem_cons, List.not_mem_nil, or_false] at hmachine
    rcases hmachine with rfl | rfl
    · rw [hparent] at hmanages
      cases hmanages
    · rw [hserver] at hmanages
      cases hmanages

end CreationPlan

namespace Request

/-- What is submitted for a request fits it. -/
theorem Submits.fits {controller : Controller} {asked : Request} {ops : List Op}
    (h : asked.Submits controller past ops) :
    (Task.request controller asked).Admits past ops := by
  have hcollections : Layout.constraints ≠ Layout.machines ∧
      Layout.constraints ≠ Layout.stateServers ∧ Layout.machines ≠ Layout.stateServers := by decide
  cases h with
  | setEnvironmentConstraints constraints =>
    apply Task.admits_of_elsewhere
    simp only [List.forall_mem_cons]
    exact ⟨⟨by decide, fun heq => absurd heq (by decide)⟩,
      ⟨hcollections.1, fun heq => absurd heq hcollections.2.1⟩, nofun⟩
  | destroyEnvironment =>
    apply Task.admits_of_elsewhere
    simp only [List.forall_mem_cons]
    exact ⟨⟨by decide, fun heq => absurd heq (by decide)⟩, nofun⟩
  | setSupportedContainers id kinds =>
    refine ⟨fun _ => List.nodup_nil, ?_, ?_⟩
    · simp only [List.forall_mem_cons]
      exact ⟨fun hnames => absurd hnames (by decide),
        fun hnames => absurd (Op.names_iff.mp hnames).1 hcollections.2.2, nofun⟩
    · simp only [List.forall_mem_cons]
      exact ⟨fun hmachine => absurd hmachine (by decide), fun _ _ => ⟨controller, kinds, rfl⟩,
        nofun⟩
  | ensureAvailability hread hmissing hsome hplans =>
    apply CreationPlan.admits_roots hplans.numbered hplans.exists_raw
    exact fun _ _ _ => trivial
  | addMachines hplans hcurrent =>
    apply CreationPlan.admits_roots hplans.numbered hplans.exists_raw
    exact fun raw hraw hjob => ⟨raw, hraw, hjob⟩
  | addMachine hplans hcurrent =>
    apply CreationPlan.admits_roots hplans.numbered hplans.exists_raw
    intro raw hraw hjob
    rwa [List.mem_singleton.mp hraw] at hjob
  | addInside hplan => exact CreationPlan.admits_ofInside hplan past
  | addInsideNew hplan => exact CreationPlan.admits_ofInsideNew hplan past

end Request

/-- What is submitted for a task fits it. -/
theorem Task.Submits.fits {ops : List Op} (h : task.Submits past ops) : task.Admits past ops := by
  cases h with
  | establish quorum uuid constraints =>
    have hcollections : Layout.environments ≠ Layout.machines ∧
        Layout.constraints ≠ Layout.machines ∧ Layout.stateServers ≠ Layout.machines := by decide
    apply Task.admits_of_elsewhere
    simp only [List.forall_mem_cons]
    exact ⟨⟨hcollections.1, fun _ => ⟨_, rfl⟩⟩, ⟨hcollections.2.1, fun _ => ⟨_, rfl⟩⟩,
      ⟨hcollections.2.2, fun _ => ⟨_, rfl⟩⟩, nofun⟩
  | request h => exact h.fits

end Fitting

/-! ## Requests that commit -/

/-- A transaction was aborted although the environment was alive. -/
def History.Raced (past : History) : Prop :=
  ∃ ops, past.LostRace ops

variable {controller : Controller}

theorem commit_ends_committed {ops : List Op} (hquiet : past.submissions = [])
    (hadmits : ∀ later, past <+: later → admits later (Environment.checkAliveOp :: ops)) :
    Ends (Disciplined admits) past (commit ops) (fun later _ => later.Committed)
      (Failed History.Raced) := by
  apply (commit_ends hquiet hadmits).mono
  · intro later call _ hcall
    exact hcall
  · intro later _ _ hsubmissions
    exact ⟨_, hsubmissions⟩
  · intro later error _ hfailed
    exact hfailed.mono fun hrace => ⟨ops, hrace⟩

namespace Environment

theorem setConstraints_ends (constraints : Constraints) (hquiet : past.submissions = []) :
    Ends (Disciplined ((Request.setEnvironmentConstraints constraints).Submits controller)) past
      (setConstraints constraints) (fun later _ => later.Committed) (Failed History.Raced) :=
  commit_ends_committed hquiet fun later _ => .setEnvironmentConstraints constraints later

end Environment

namespace CreationPlan

theorem roots_ends (raws : List Template) (hquiet : past.submissions = []) :
    Ends (Disciplined admits) past (raws.mapM root)
      (fun later plans => later.submissions = [] ∧ AreRoots raws later plans) (Failed lost) := by
  apply ((prepares_mapM prepares_root raws).disciplined hquiet
    ((roots_meets_each raws).and (roots_meets_numbered raws))).weaken
  rintro later plans - ⟨hquiet, hroots, hnumbered⟩
  exact ⟨hquiet, hroots, hnumbered⟩

end CreationPlan

/-- Operations that keep the lists of state servers in step are those of a batch. -/
theorem StateServers.bootstrapOps_ends (machines : List Machine) (hquiet : past.submissions = []) :
    Ends (Disciplined admits) past (bootstrapOps machines)
      (fun later ops => later.submissions = [] ∧ ∃ current,
        ops = (addOp? machines current).toList ∧ current.Bootstraps machines later) (Failed lost) :=
  (prepares_bootstrapOps machines).disciplined hquiet (bootstrapOps_meets_bootstraps machines)

namespace Machine

/-- Root machines are added by one transaction, with their plans and the lists that were read. -/
theorem addAll_ends (raws : List Template)
    (hadmits : ∀ (plans : List CreationPlan) (current : StateServers) (later : History),
      CreationPlan.AreRoots raws later plans → current.Bootstraps (plans.map (·.machine)) later →
        admits later (Environment.checkAliveOp :: (plans.flatMap (·.ops) ++
          (StateServers.addOp? (plans.map (·.machine)) current).toList)))
    (hquiet : past.submissions = []) :
    Ends (Disciplined admits) past (addAll raws)
      (fun later machines => later.Committed ∧ machines.length = raws.length)
      (Failed History.Raced) := by
  unfold addAll
  refine Ends.inContext ?_ _ fun later error hfailed => hfailed.inContext _
  apply (Environment.prepares_requireAlive.disciplined hquiet
    Environment.requireAlive_meets).bind
  rintro alive _ - ⟨hquiet, -⟩
  apply (CreationPlan.roots_ends raws hquiet).bind
  rintro planned plans - ⟨hquiet, hplans⟩
  apply (StateServers.bootstrapOps_ends (plans.map (·.machine)) hquiet).bind
  rintro later _ hlater ⟨hquiet, current, rfl, hcurrent⟩
  have hcommit := commit_ends_committed hquiet fun final hfinal =>
    hadmits plans current final (hplans.mono (hlater.trans hfinal)) (hcurrent.mono hfinal)
  apply hcommit.bind
  intro _ _ _ hcommitted
  exact ends_pure ⟨hcommitted, by rw [List.length_map, hplans.length_eq]⟩

theorem add_ends (raw : Template) (hquiet : past.submissions = []) :
    Ends (Disciplined ((Request.addMachine raw).Submits controller)) past (add raw)
      (fun later _ => later.Committed) (Failed History.Raced) := by
  unfold add
  apply (addAll_ends [raw] (fun _ _ _ hplans hcurrent => .addMachine hplans hcurrent) hquiet).bind
  rintro later machines - ⟨hcommitted, hlength⟩
  split
  · exact ends_pure hcommitted
  · next hnone =>
    -- One template makes one machine.
    rw [List.getLast?_eq_none_iff.mp hnone] at hlength
    cases hlength

theorem addInside_ends (raw : Template) (parent : String) (kind : ContainerType)
    (hquiet : past.submissions = []) :
    Ends (Disciplined ((Request.addInside raw parent kind).Submits controller)) past
      (addInside raw parent kind) (fun later _ => later.Committed) (Failed History.Raced) := by
  unfold addInside
  apply (Environment.prepares_requireAlive.disciplined hquiet
    Environment.requireAlive_meets).bind
  rintro alive _ - ⟨hquiet, -⟩
  apply ((CreationPlan.prepares_inside raw parent kind).disciplined hquiet
    (CreationPlan.inside_meets raw parent kind)).bind
  rintro later _ - ⟨hquiet, template, number, host, hplan, rfl⟩
  apply (commit_ends_committed hquiet fun final hfinal => .addInside (hplan.mono hfinal)).bind
  intro _ _ _ hcommitted
  exact ends_pure hcommitted

theorem addInsideNew_ends (raw rawParent : Template) (kind : ContainerType)
    (hquiet : past.submissions = []) :
    Ends (Disciplined ((Request.addInsideNew raw rawParent kind).Submits controller)) past
      (addInsideNew raw rawParent kind) (fun later _ => later.Committed)
      (Failed History.Raced) := by
  unfold addInsideNew
  apply (Environment.prepares_requireAlive.disciplined hquiet
    Environment.requireAlive_meets).bind
  rintro alive _ - ⟨hquiet, -⟩
  apply ((CreationPlan.prepares_insideNew raw rawParent kind).disciplined hquiet
    (CreationPlan.insideNew_meets raw rawParent kind)).bind
  rintro later _ - ⟨hquiet, template, parentTemplate, parentNumber, number, hplan, rfl⟩
  apply (commit_ends_committed hquiet fun final hfinal => .addInsideNew (hplan.mono hfinal)).bind
  intro _ _ _ hcommitted
  exact ends_pure hcommitted

theorem setSupportedContainers_ends (id : String) (kinds : List ContainerType)
    (hquiet : past.submissions = []) :
    Ends (Disciplined ((Request.setSupportedContainers id kinds).Submits controller)) past
      (setSupportedContainers id kinds) (fun later _ => later.Committed)
      (Failed fun later => ∃ (asked : History) (document : Value),
        asked.LostRace [reportOp id kinds] ∧
          asked.HasRead later Layout.machines id document) := by
  unfold setSupportedContainers
  apply Ends.unless rfl hquiet
  intro _
  apply (commit_ends hquiet fun later _ => .setSupportedContainers id kinds later).attempt.bind
  intro later result _ hresult
  cases result with
  | ok _ => exact ends_pure ⟨_, hresult⟩
  | error error =>
    have hfailed : Failed (History.LostRace [reportOp id kinds]) later error := hresult
    apply ((Procedure.prepares_fetch .machine (fun _ hread => hread) _ _).refused hfailed.refused
      (fetch_meets_read Machine.decode .machine Layout.machines id)).bind
    rintro final machine hextend ⟨hsame, document, hread, -⟩
    have hrefused : ∀ submission ∈ History.submissions final, submission.2 ≠ .ok () := by
      rw [hsame]
      exact hfailed.refused
    split
    · exact ends_throw (failed_of_isPlain rfl hrefused)
    · refine ends_throw ⟨hrefused, hfailed.explained.mono hextend, fun haborted => ?_⟩
      rcases hfailed.cause haborted with hspurious | hlost
      · exact .inl (hspurious.mono hextend)
      · exact .inr ⟨later, document, hlost, hread⟩

end Machine

/-! ## Requests that may find nothing to do -/

/-- The environment was found to be past its life, or the transaction that ends it was submitted
and either took place or was aborted. -/
def Environment.Ended (past : History) : Prop :=
  ∃ (found : History) (document : Value) (environment : Environment),
    History.HasRead [] found Layout.environments Layout.environmentKey document ∧
      decode document = .ok environment ∧
      (environment.life ≠ .alive ∧ past = found ∨
        ∃ answer, past = found ++ [⟨.transact [destroyOp], answer⟩] ∧
          ∀ failure, answer = .error failure → failure.isAborted = true)

theorem Environment.destroy_ends :
    Ends (Disciplined (Request.destroyEnvironment.Submits controller)) [] destroy
      (fun later _ => Ended later) (Failed lost) := by
  unfold destroy
  apply (prepares_fetch.disciplined rfl fetch_meets_read).bind
  rintro later environment - ⟨hquiet, document, hread, hdecode⟩
  split
  · next hlife =>
    exact ends_pure ⟨later, document, environment, hread, hdecode, .inl ⟨hlife, rfl⟩⟩
  · apply (ends_transact hquiet (.destroyEnvironment later)).bind
    rintro asked answer - ⟨hasked, hsubmissions⟩
    have hended : (∀ failure, answer = .error failure → failure.isAborted = true) →
        Ended asked := fun hanswer =>
      ⟨later, document, environment, hread, hdecode, .inr ⟨answer, hasked, hanswer⟩⟩
    cases answer with
    | ok _ => exact ends_pure (hended nofun)
    | error failure =>
      cases failure with
      | aborted index collection id reason =>
        apply ends_pure
        apply hended
        rintro _ ⟨⟩
        rfl
      | _ =>
        have hmem : _ ∈ asked := hasked ▸ List.mem_append_right later (List.mem_singleton_self _)
        apply ends_throw
        apply failed_of_not_aborted rfl (.failure hmem rfl)
        rw [hsubmissions]
        simp

namespace Controller

/-- The machines of a new set of state servers were committed, or the voters that there were
reached the target. -/
def Ensured (target : Nat) (past : History) : Prop :=
  past.Committed ∨
    ∃ (found : History) (document document' : Value) (record : StateServersRecord),
      History.HasRead [] found Layout.environments Layout.environmentKey document ∧
        found.HasRead past Layout.stateServers Layout.environmentKey document' ∧
        StateServersRecord.decode document' = .ok record ∧
        record.servers.votingMachineIds.length = target

theorem ensureAvailability_ends (controller : Controller) (target : Nat)
    (constraints : Constraints) (series : String) :
    Ends (Disciplined
        ((Request.ensureAvailability target constraints series).Submits controller)) []
      (controller.ensureAvailability target constraints series)
      (fun later _ => Ensured target later) (Failed History.Raced) := by
  unfold ensureAvailability
  apply (ends_decision (fun _ => isPlain_of_missingVoters) rfl).bind
  rintro _ _ - ⟨rfl, -⟩
  apply (Environment.prepares_requireAlive.disciplined rfl
    Environment.requireAlive_meets_read).bind
  rintro alive _ - ⟨hquiet, document, environment, halive, -, -⟩
  apply (StateServers.prepares_fetch.disciplined hquiet StateServers.fetch_meets_read).bind
  rintro _ current - ⟨hquiet, document', record, hread, hdecode, rfl⟩
  apply (ends_decision (fun _ => isPlain_of_missingVoters) hquiet).bind
  rintro read missing - ⟨rfl, hmissing⟩
  split
  · next hzero =>
    obtain ⟨-, -, hsum⟩ := target_of_missingVoters hmissing
    apply ends_pure
    refine .inr ⟨alive, document, document', record, halive, hread, hdecode, ?_⟩
    omega
  · next hsome =>
    have hcurrent : record.servers.WereRead read := ⟨record, hread.found hdecode, rfl⟩
    apply (CreationPlan.roots_ends _ hquiet).bind
    rintro planned plans hplanned ⟨hquiet, hplans⟩
    -- The voters that are planned are those that are missing, so the check holds.
    obtain ⟨hvoters, hodd⟩ := hplans.voters_eq hmissing
    dsimp only
    rw [hvoters]
    split
    · omega
    · refine Ends.inContext ?_ _ fun later error hfailed => hfailed.inContext _
      have hcommit := commit_ends_committed hquiet fun final hfinal =>
        Request.Submits.ensureAvailability (hcurrent.mono (hplanned.trans hfinal)) hmissing hsome
          (hplans.mono hfinal)
      apply hcommit.weaken
      intro later _ _ hcommitted
      exact .inl hcommitted

theorem establish_ends (quorum : QuorumConfig) (uuid : Uuid) (constraints : Constraints) :
    Ends (Disciplined (Task.establish quorum uuid constraints).Submits) []
      (establish quorum uuid constraints)
      (fun later _ => later.Committed) (Failed lost) := by
  have hattach : ∀ error, attach quorum = .error error → error.isPlain = true := by
    intro error h
    unfold attach at h
    split at h
    · cases h
    · cases h
      rfl
  unfold establish
  apply (ends_decision hattach rfl).bind
  rintro _ controller - ⟨rfl, -⟩
  apply (ends_transact rfl (.establish quorum uuid constraints [])).bind
  rintro asked answer - ⟨hasked, hsubmissions⟩
  cases answer with
  | ok _ => exact ends_pure ⟨_, hsubmissions⟩
  | error failure =>
    have hrefused : ∀ submission ∈ History.submissions asked, submission.2 ≠ .ok () := by
      rw [hsubmissions]
      simp
    cases failure with
    | aborted index collection id reason => exact ends_throw (failed_of_isPlain rfl hrefused)
    | _ =>
      rw [List.nil_append] at hasked
      have hmem : _ ∈ asked := hasked.symm ▸ List.mem_singleton_self _
      exact ends_throw (failed_of_not_aborted rfl (.failure hmem rfl) hrefused)

end Controller

/-! ## Every task -/

/-- One number was drawn from a counter, and nothing else was asked. -/
def History.Counted (counter : String) (past : History) : Prop :=
  ∃ number, past = [⟨.increment Layout.sequence counter "counter", .ok number⟩]

/-- One document was read, and nothing else was asked. -/
def History.Looked (past : History) : Prop :=
  ∃ collection id document, History.HasRead [] past collection id document

theorem nextNumber_ends (counter : String) :
    Ends (Disciplined admits) [] (nextNumber counter)
      (fun later _ => later.Counted counter) (Failed lost) := by
  apply ((prepares_nextNumber counter).disciplined rfl (nextNumber_meets_last counter)).weaken
  rintro later number - ⟨-, hdrawn⟩
  exact ⟨number, hdrawn⟩

theorem fetch_ends {α : Type} (type : ResourceType) {decode : Decoder α}
    (hdecode : ∀ document, type.IsReadAs document → ∃ record, decode document = .ok record)
    (missing : ResourceType) (id : String) :
    Ends (Disciplined admits) [] (fetch decode missing type.collection id)
      (fun later _ => later.Looked) (Failed lost) := by
  apply ((prepares_fetch type hdecode missing id).disciplined rfl
    (fetch_meets_read decode missing type.collection id)).weaken
  rintro later record - ⟨-, document, hread, -⟩
  exact ⟨type.collection, id, document, hread⟩

theorem Environment.fetch_ends :
    Ends (Disciplined admits) [] fetch (fun later _ => later.Looked) (Failed lost) := by
  apply (prepares_fetch.disciplined rfl fetch_meets_read).weaken
  rintro later record - ⟨-, document, hread, -⟩
  exact ⟨Layout.environments, Layout.environmentKey, document, hread⟩

namespace Request

/-- What has happened when a request has its result. -/
def Concluded (past : History) : Request → Prop
  | setEnvironmentConstraints _ => past.Committed
  | destroyEnvironment => Environment.Ended past
  | nextNumber counter => past.Counted counter
  | ensureAvailability target _ _ => Controller.Ensured target past
  | setSupportedContainers _ _ => past.Committed
  | addMachines _ => past.Committed
  | addMachine _ => past.Committed
  | addInside _ _ _ => past.Committed
  | addInsideNew _ _ _ => past.Committed
  | _ => past.Looked

/-- What has happened when a request reports a lost race. -/
def Lost (past : History) : Request → Prop
  | setSupportedContainers id kinds => ∃ (asked : History) (document : Value),
    asked.LostRace [Machine.reportOp id kinds] ∧ asked.HasRead past Layout.machines id document
  | _ => past.Raced

/-- Every request submits one transaction at most, which is its own, and ends as it is said to. -/
theorem procedure_ends (controller : Controller) (asked : Request) :
    Ends (Disciplined (asked.Submits controller)) [] (asked.procedure controller)
      (fun later _ => asked.Concluded later) (Failed fun later => asked.Lost later) := by
  cases asked with
  | environment => exact Environment.fetch_ends
  | environmentConstraints => exact fetch_ends .constraints (fun _ hread => hread) _ _
  | setEnvironmentConstraints constraints => exact Environment.setConstraints_ends constraints rfl
  | destroyEnvironment => exact Environment.destroy_ends
  | nextNumber counter => exact nextNumber_ends counter
  | stateServers => exact (fetch_ends .stateServerInfo (fun _ hread => hread) _ _).map
  | ensureAvailability target constraints series =>
    exact controller.ensureAvailability_ends target constraints series
  | machine id => exact fetch_ends .machine (fun _ hread => hread) _ _
  | containers id => exact (fetch_ends .containerRef (fun _ hread => hread) _ _).map
  | machineConstraints id => exact fetch_ends .constraints (fun _ hread => hread) _ _
  | machineStatus id => exact fetch_ends .status (fun _ hread => hread) _ _
  | instanceData id => exact fetch_ends .instanceData (fun _ hread => hread) _ _
  | setSupportedContainers id kinds => exact Machine.setSupportedContainers_ends id kinds rfl
  | addMachines raws =>
    apply (Machine.addAll_ends raws (fun _ _ _ => .addMachines) rfl).weaken
    intro later machines _ hcommitted
    exact hcommitted.1
  | addMachine raw => exact Machine.add_ends raw rfl
  | addInside raw parent kind => exact Machine.addInside_ends raw parent kind rfl
  | addInsideNew raw rawParent kind => exact Machine.addInsideNew_ends raw rawParent kind rfl

end Request

namespace Task

/-- What has happened when a task has its result. -/
def Concluded (past : History) : Task → Prop
  | establish _ _ _ => past.Committed
  | request _ asked => asked.Concluded past

/-- What has happened when a task reports a lost race. -/
def Lost (past : History) : Task → Prop
  | establish _ _ _ => False
  | request _ asked => asked.Lost past

theorem procedure_ends (task : Task) :
    Ends (Disciplined task.Submits) [] task.procedure (fun later _ => task.Concluded later)
      (Failed fun later => task.Lost later) := by
  cases task with
  | establish quorum uuid constraints => exact Controller.establish_ends quorum uuid constraints
  | request controller asked =>
    apply (asked.procedure_ends controller).mono
    · intro later call _ hcall
      exact hcall.mono fun _ => .request
    · intro later result _ hconcluded
      exact hconcluded
    · intro later error _ hfailed
      exact hfailed

end Task

/-- A thread that goes on as its task does, and submits what its task is to submit. -/
def Thread.Dutiful (thread : Thread) : Prop :=
  thread.rest.Conforms (Disciplined thread.task.Submits)
    (Outcome (fun later _ => thread.task.Concluded later)
      (Failed fun later => thread.task.Lost later)) thread.past

theorem Reachable.dutiful {world : World} (h : Reachable world) :
    ∀ thread ∈ world.threads, thread.Dutiful := by
  apply h.threads_induct Thread.Dutiful
  · intro task
    exact task.procedure_ends
  · intro thread call next answer hdutiful hrest
    rw [Thread.Dutiful, hrest] at hdutiful
    exact hdutiful.2 answer

/-- A thread that goes on as its task does. -/
def Thread.Orderly (thread : Thread) : Prop :=
  thread.rest.Conforms (Disciplined thread.task.Admits)
    (Outcome (fun later _ => thread.task.Concluded later)
      (Failed fun later => thread.task.Lost later)) thread.past

theorem Reachable.orderly {world : World} (h : Reachable world) :
    ∀ thread ∈ world.threads, thread.Orderly := by
  intro thread hthread
  apply (h.dutiful thread hthread).mono
  · intro later call _ hcall
    exact hcall.mono fun _ => Task.Submits.fits
  · intro later result _ houtcome
    exact houtcome

/-- A transaction that takes place is the first one of its thread, and the one that its task is to
submit. -/
theorem World.Commits.submits {world later : World} {thread : Thread} {ops : List Op}
    (h : world.Commits thread ops later) (hreachable : Reachable world) :
    thread.past.submissions = [] ∧ thread.task.Submits thread.past ops := by
  obtain ⟨hthread, ⟨next, hrest⟩, -⟩ := h.cases
  have hdutiful := hreachable.dutiful thread hthread
  rw [Thread.Dutiful, hrest] at hdutiful
  exact hdutiful.1

end ControlPlane
