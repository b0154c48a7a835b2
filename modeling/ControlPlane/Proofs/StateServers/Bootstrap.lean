import ControlPlane.Proofs.Run.Races
import ControlPlane.Proofs.StateServers.LostUpdate

/-!
# The first state server

The first state server is added on request: it is the machine "0", alone in
its transaction, and the lists of state servers are empty when it is added.
Lists that are not empty stay so, and therefore no second machine can be added
in this way, nor any after state servers have been added to reach a target.
-/

namespace ControlPlane

open Json Store

/-- The templates of the root machines that a task is asked to add. -/
def Task.templates : Task → List Template
  | request _ (.addMachines raws) => raws
  | request _ (.addMachine raw) => [raw]
  | _ => []

/-- The task is asked to add a root machine that is a state server. -/
def Task.Bootstraps (task : Task) : Prop :=
  ∃ raw ∈ task.templates, Job.manageEnviron ∈ raw.jobs

theorem Task.Bootstraps.addsServers {task : Task} (h : task.Bootstraps) : task.AddsServers := by
  obtain ⟨raw, hraw, hjob⟩ := h
  cases task with
  | establish quorum uuid constraints => cases hraw
  | request controller asked =>
    cases asked with
    | addMachines raws => exact ⟨raw, hraw, hjob⟩
    | addMachine other =>
      obtain rfl := List.mem_singleton.mp hraw
      exact hjob
    | _ => cases hraw

namespace StateServers

variable {machines : List Machine} {current : StateServers} {past : History} {op : Op}

/-- Lists in which nothing is listed. -/
theorem eq_empty_of_isEmpty {servers : StateServers} (h : servers.isEmpty = true) :
    servers = { machineIds := [], votingMachineIds := [] } := by
  obtain ⟨machineIds, votingMachineIds⟩ := servers
  simp only [isEmpty, Bool.and_eq_true, List.isEmpty_iff] at h
  obtain ⟨rfl, rfl⟩ := h
  rfl

theorem mem_of_addOp? (h : addOp? machines current = some op) (first : Op) (ops : List Op) :
    op ∈ first :: (ops ++ (addOp? machines current).toList) :=
  List.mem_cons_of_mem _ (List.mem_append_right _ (Option.mem_toList.mpr h))

/-- Where there is something to add on request, it is the machine "0" to empty lists. -/
theorem Bootstraps.of_addOp? (h : current.Bootstraps machines past)
    (hop : addOp? machines current = some op) :
    machines.map (·.id) = ["0"] ∧ current.WereRead past ∧ current.isEmpty = true := by
  apply h.resolve_left
  intro hnone
  rw [addOp?_eq_none_iff.mpr hnone] at hop
  cases hop

end StateServers

namespace CreationPlan

variable {raws : List Template} {past : History} {plans : List CreationPlan} {raw : Template}

/-- The plan for a template that asks for a state server is that of a state server. -/
theorem AreRoots.exists_addOp? (h : AreRoots raws past plans) (hraw : raw ∈ raws)
    (hjob : Job.manageEnviron ∈ raw.jobs) (current : StateServers) :
    ∃ op, StateServers.addOp? (plans.map (·.machine)) current = some op := by
  obtain ⟨index, hindex, rfl⟩ := List.getElem_of_mem hraw
  have hplan : index < plans.length := h.length_eq ▸ hindex
  have hroot : plans[index].IsRoot raws[index] past := h.roots.get hindex hplan
  obtain ⟨template, number, haccepted, -, heq⟩ := hroot
  have hserver := haccepted.isStateServer_eq (MachineId.root number) none
  rw [List.contains_iff_mem.mpr hjob] at hserver
  apply Option.ne_none_iff_exists'.mp
  intro hnone
  have hplain := StateServers.addOp?_eq_none_iff.mp hnone plans[index].machine
    (List.mem_map_of_mem (List.getElem_mem hplan))
  rw [heq] at hplain
  cases hserver.symm.trans hplain

theorem AreRoots.inserted_eq (h : AreRoots raws past plans) (current : StateServers) :
    (Op.inserted Layout.machines (Environment.checkAliveOp :: (plans.flatMap (·.ops) ++
      (StateServers.addOp? (plans.map (·.machine)) current).toList))).map (·.1) =
      plans.map (·.machine.id) := by
  have hroot := exists_ofRoot fun plan hplan =>
    (h.exists_raw plan hplan).imp fun raw hraw => hraw.2
  have halive : Environment.checkAliveOp.collection ≠ Layout.machines := by decide
  rw [Op.inserted_cons_of_ne halive, (batch_of_roots hroot current).inserted_eq, List.map_map,
    List.map_map]
  rfl

end CreationPlan

variable {world later : World} {events : List Event} {thread : Thread} {ops : List Op}
  {task : Task} {past : History}

/-- What a task submits that adds state servers was planned from lists that it has read. -/
theorem Task.Submits.of_addsServers (h : task.Submits past ops) (hadds : task.AddsServers) :
    ∃ (plans : List CreationPlan) (current : StateServers) (op : Op),
      StateServers.addOp? (plans.map (·.machine)) current = some op ∧ op ∈ ops ∧
        current.WereRead past := by
  cases h with
  | establish quorum uuid constraints => cases hadds
  | request h =>
    cases h with
    | @ensureAvailability target missing constraints series _ plans current hread hmissing hsome
        hplans =>
      have hjob : Job.manageEnviron ∈ (Controller.serverTemplate series constraints).jobs := by
        simp [Controller.serverTemplate]
      obtain ⟨op, hop⟩ :=
        hplans.exists_addOp? (List.mem_replicate.mpr ⟨hsome, rfl⟩) hjob current
      exact ⟨plans, current, op, hop, StateServers.mem_of_addOp? hop _ _, hread⟩
    | @addMachines raws _ plans current hplans hcurrent =>
      obtain ⟨raw, hraw, hjob⟩ := hadds
      obtain ⟨op, hop⟩ := hplans.exists_addOp? hraw hjob current
      exact ⟨plans, current, op, hop, StateServers.mem_of_addOp? hop _ _,
        (hcurrent.of_addOp? hop).2.1⟩
    | @addMachine raw _ plans current hplans hcurrent =>
      obtain ⟨op, hop⟩ := hplans.exists_addOp? List.mem_cons_self hadds current
      exact ⟨plans, current, op, hop, StateServers.mem_of_addOp? hop _ _,
        (hcurrent.of_addOp? hop).2.1⟩
    | _ => cases hadds

/-- What a task submits that is asked for root machines: their plans, with lists to which they may
be added. -/
theorem Task.Submits.of_templates (h : task.Submits past ops) (hsome : task.templates ≠ []) :
    ∃ (plans : List CreationPlan) (current : StateServers),
      CreationPlan.AreRoots task.templates past plans ∧
        current.Bootstraps (plans.map (·.machine)) past ∧
        ops = Environment.checkAliveOp :: (plans.flatMap (·.ops) ++
          (StateServers.addOp? (plans.map (·.machine)) current).toList) := by
  cases h with
  | establish quorum uuid constraints => exact absurd rfl hsome
  | request h =>
    cases h with
    | addMachines hplans hcurrent => exact ⟨_, _, hplans, hcurrent, rfl⟩
    | addMachine hplans hcurrent => exact ⟨_, _, hplans, hcurrent, rfl⟩
    | _ => exact absurd rfl hsome

/-- Where a task commits that adds state servers, there are state servers afterwards. -/
theorem World.Commits.exists_servers (h : world.Commits thread ops later)
    (hreachable : Reachable world) (hadds : thread.task.AddsServers) :
    ∃ servers, later.store.servers? = some servers ∧ servers.machineIds ≠ [] := by
  obtain ⟨plans, current, op, hop, hmem, hread⟩ :=
    (h.submits hreachable).2.of_addsServers hadds
  obtain ⟨-, hservers⟩ := h.servers_eq hreachable hop hmem hread
  refine ⟨_, hservers, ?_⟩
  have hlonger := StateServers.length_lt_adding hop current
  exact List.ne_nil_of_length_pos (Nat.lt_of_le_of_lt (Nat.zero_le _) hlonger)

/-- The number of the machine "0" is zero. -/
theorem MachineId.eq_zero_of_root {number : Nat} (h : root number = "0") : number = 0 :=
  root_inj (h.trans (by decide : "0" = root 0))

/-- The only machine of the transaction has the id "0", whose number was drawn for it, and nobody
is listed as a state server when it is committed. -/
theorem World.Commits.bootstraps (h : world.Commits thread ops later)
    (hreachable : Reachable world) (hbootstraps : thread.task.Bootstraps) :
    thread.task.templates.length = 1 ∧ thread.past.Drew MachineId.rootCounter 0 ∧
      (Op.inserted Layout.machines ops).map (·.1) = ["0"] ∧
      world.store.servers? = some { machineIds := [], votingMachineIds := [] } := by
  obtain ⟨raw, hraw, hjob⟩ := hbootstraps
  obtain ⟨plans, current, hplans, hcurrent, rfl⟩ :=
    (h.submits hreachable).2.of_templates (List.ne_nil_of_mem hraw)
  obtain ⟨op, hop⟩ := hplans.exists_addOp? hraw hjob current
  obtain ⟨hids, hread, hempty⟩ := hcurrent.of_addOp? hop
  have hmem := StateServers.mem_of_addOp? hop Environment.checkAliveOp (plans.flatMap (·.ops))
  obtain ⟨hservers, -⟩ := h.servers_eq hreachable hop hmem hread
  rw [StateServers.eq_empty_of_isEmpty hempty] at hservers
  rw [List.map_map] at hids
  have hinserted := (hplans.inserted_eq current).trans hids
  have hlength : plans.length = 1 := by
    rw [← List.length_map, hids]
    rfl
  obtain ⟨plan, rfl⟩ := List.length_eq_one_iff.mp hlength
  obtain ⟨raw, -, template, number, -, hdrew, rfl⟩ := hplans.exists_raw plan List.mem_cons_self
  obtain rfl : number = 0 := MachineId.eq_zero_of_root (List.singleton_inj.mp hids)
  exact ⟨hplans.length_eq.symm, hdrew, hinserted, hservers⟩

/-- After state servers have been added, no task adds the first one. -/
theorem Run.not_bootstraps {before after : World} {other : Thread} {ops' : List Op}
    (hrun : Run later events before) (h : world.Commits thread ops later)
    (hreachable : Reachable world) (hadds : thread.task.AddsServers)
    (hcommit : before.Commits other ops' after) : ¬other.task.Bootstraps := by
  intro hbootstraps
  have hlater : Reachable later := by
    obtain ⟨index, -, hstep⟩ := h
    exact hreachable.step hstep
  obtain ⟨servers, hservers, hsome⟩ := h.exists_servers hreachable hadds
  obtain ⟨servers', hservers', hprecedes⟩ := hrun.servers_precede hlater hservers
  obtain ⟨-, -, -, hempty⟩ := hcommit.bootstraps (hlater.run hrun) hbootstraps
  rw [hempty] at hservers'
  obtain rfl := Option.some.inj hservers'
  exact hsome (List.prefix_nil.mp hprecedes.machineIds)

/-- A thread that ends in an error has left all records but the counters as they were, whenever it
was its turn. -/
theorem Run.unchanged_of_error {index : Nat} {error : Error} {before after : List Event}
    {exchange : Exchange} {found left : World}
    (hthread : world.threads[index]? = some thread) (hrest : thread.rest = .done (.error error))
    (hbefore : Run .initial before found) (hstep : Step found (.exchanged index exchange) left)
    (hafter : Run left after world) :
    ∀ collection ≠ Layout.sequence, ∀ id,
      left.store.get? collection id = found.store.get? collection id := by
  have hfound : Reachable found := ⟨before, hbefore⟩
  have hrun : Run .initial (before ++ .exchanged index exchange :: after) world :=
    hbefore.trans (.cons hstep hafter)
  have hdutiful := Reachable.dutiful ⟨_, hrun⟩ thread (List.mem_of_getElem? hthread)
  rw [Thread.Dutiful, hrest] at hdutiful
  have hfailed : Failed (fun later => thread.task.Lost later) thread.past error := hdutiful
  rcases hstep.unchanged_or_commit hfound.conducted with
    hsame | ⟨other, asking, ops, -, hevent, -, -⟩
  · exact hsame
  · obtain ⟨rfl, rfl⟩ : index = other ∧ exchange = ⟨.transact ops, .ok ()⟩ :=
      Event.exchanged.inj hevent
    exact absurd (by simp) (hrun.notMem_of_refused hthread hfailed.refused ops)

/-- A task that is to add a state server as a root machine commits only if it was asked for one
machine, whose id is "0", in an environment where nobody is listed as a state server.  No such
task commits after state servers have been added in whichever way, hence none after another
one.  And whoever ends in an error has written nothing but counters. -/
theorem bootstrap_first_and_once (h : Reachable world) :
    (∀ {thread : Thread} {ops : List Op} {later : World}, world.Commits thread ops later →
      thread.task.Bootstraps →
        thread.task.templates.length = 1 ∧ thread.past.Drew MachineId.rootCounter 0 ∧
          (Op.inserted Layout.machines ops).map (·.1) = ["0"] ∧
          world.store.servers? = some { machineIds := [], votingMachineIds := [] }) ∧
    (∀ {thread other : Thread} {ops ops' : List Op} {later before after : World}
      {events : List Event}, world.Commits thread ops later → thread.task.AddsServers →
      Run later events before → before.Commits other ops' after → ¬other.task.Bootstraps) ∧
    (∀ {index : Nat} {thread : Thread} {error : Error} {before after : List Event}
      {exchange : Exchange} {found left : World}, world.threads[index]? = some thread →
      thread.rest = .done (.error error) → Run .initial before found →
      Step found (.exchanged index exchange) left → Run left after world →
      ∀ collection ≠ Layout.sequence, ∀ id,
        left.store.get? collection id = found.store.get? collection id) := by
  refine ⟨?_, ?_, ?_⟩
  · intro thread ops later hcommit hbootstraps
    exact hcommit.bootstraps h hbootstraps
  · intro thread other ops ops' later before after events hcommit hadds hrun hcommit'
    exact hrun.not_bootstraps hcommit h hadds hcommit'
  · intro index thread error before after exchange found left hthread hrest hbefore hstep hafter
    exact Run.unchanged_of_error hthread hrest hbefore hstep hafter

/-- A request for a single state server. -/
def Task.bootstrapping : Task :=
  .request World.usual (.addMachine { series := "jammy", jobs := [.manageEnviron] })

namespace World

/-- A world in which the first state server is about to be added. -/
def bootstrapping : World :=
  founded.prepare none .bootstrapping

/-- The settled world, after another state server has been asked for on its own. -/
def bootstrappedTwice : World :=
  settled.perform none .bootstrapping

theorem reachable_bootstrapping : Reachable bootstrapping := by
  unfold bootstrapping prepare
  exact reachable_founded.carry _ none _ (permits_founded _)

theorem reachable_bootstrappedTwice : Reachable bootstrappedTwice := by
  unfold bootstrappedTwice perform
  exact reachable_settled.carry _ none _ (permits_settled _)

/-- The request has been turned away. -/
theorem exists_refused_bootstrappedTwice :
    ∃ (index : Nat) (past : History), bootstrappedTwice.threads[index]? =
      some ⟨.bootstrapping, past, .done (.error .stateServerNotAllowed)⟩ := by
  have hends : (Task.bootstrapping.procedure.run.converse none (fun _ => false) settled.store
      []).1.endsWith (fun result => match result with
        | .error error => error = .stateServerNotAllowed
        | .ok _ => false) = true := by decide +kernel
  obtain ⟨past, result, hthread, hrefused⟩ := exists_thread_of_endsWith _ _ _ _ hends
  cases result with
  | ok _ => cases hrefused
  | error error =>
    obtain rfl := of_decide_eq_true hrefused
    exact ⟨_, past, hthread⟩

end World

/-- In the founded world a task adds the first state server, and nobody does so afterwards; in the
settled world such a task is turned away and writes nothing but counters. -/
theorem bootstrap_first_and_once_founded :
    (∃ (world later : World) (thread : Thread) (ops : List Op),
      Reachable world ∧ world.Commits thread ops later ∧ thread.task.Bootstraps ∧
        (Op.inserted Layout.machines ops).map (·.1) = ["0"] ∧
        world.store.servers? = some { machineIds := [], votingMachineIds := [] } ∧
        ∀ {events : List Event} {before after : World} {other : Thread} {ops' : List Op},
          Run later events before → before.Commits other ops' after → ¬other.task.Bootstraps) ∧
    (∃ (world : World) (index : Nat) (thread : Thread),
      Reachable world ∧ world.threads[index]? = some thread ∧ thread.task.Bootstraps ∧
        thread.rest = .done (.error .stateServerNotAllowed) ∧
        ∀ {before after : List Event} {exchange : Exchange} {found left : World},
          Run .initial before found → Step found (.exchanged index exchange) left →
          Run left after world → ∀ collection ≠ Layout.sequence, ∀ id,
            left.store.get? collection id = found.store.get? collection id) := by
  have hbootstraps : Task.bootstrapping.Bootstraps := ⟨_, List.mem_cons_self, List.mem_cons_self⟩
  constructor
  · have hready : World.bootstrapping.threads[1]?.any
        (·.isReady World.bootstrapping.store fun _ => true) = true := by decide +kernel
    obtain ⟨thread, ops, later, -, hthread, hstep, -⟩ := World.step_of_isReady hready
    have hcommit : World.bootstrapping.Commits thread ops later := ⟨1, hthread, hstep⟩
    have hasked := World.getElem?_carry World.founded none Call.isTransact .bootstrapping
    obtain rfl := Option.some.inj (hthread.symm.trans hasked)
    obtain ⟨hcommits, hnever, -⟩ := bootstrap_first_and_once World.reachable_bootstrapping
    obtain ⟨-, -, hids, hservers⟩ := hcommits hcommit hbootstraps
    refine ⟨World.bootstrapping, later, _, ops, World.reachable_bootstrapping, hcommit, hbootstraps,
      hids, hservers, ?_⟩
    intro events before after other ops' hrun hcommit'
    exact hnever hcommit hbootstraps.addsServers hrun hcommit'
  · obtain ⟨index, past, hasked⟩ := World.exists_refused_bootstrappedTwice
    refine ⟨World.bootstrappedTwice, index, _, World.reachable_bootstrappedTwice, hasked,
      hbootstraps, rfl, ?_⟩
    intro before after exchange found left hbefore hstep hafter
    exact (bootstrap_first_and_once World.reachable_bootstrappedTwice).2.2 hasked rfl hbefore hstep
      hafter

end ControlPlane
