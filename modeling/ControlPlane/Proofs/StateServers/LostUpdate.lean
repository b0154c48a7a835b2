import ControlPlane.Proofs.Run.Alone
import ControlPlane.Proofs.StateServers.Growth

/-!
# No update of the state servers is lost

A plan to add state servers asserts no more than the lengths of the lists it
was made from.  But lists that only grow and still have their lengths are the
same lists, so a plan takes place only where nothing has changed since; and as
every plan that takes place makes the lists longer, no other plan that was
made from the same lists can follow it.
-/

namespace ControlPlane

open Json Store

namespace StateServers

variable {machines machines' : List Machine} {current current' : StateServers} {op : Op}

theorem string_map_injective {texts texts' : List String}
    (h : texts.map Value.string = texts'.map Value.string) : texts = texts' :=
  List.map_injective_iff.mpr (fun _ _ heq => Value.string.inj heq) h

/-- The operation has the lengths that it expects and the ids that it adds. -/
theorem addOp?_inj (h : addOp? machines current = some op)
    (h' : addOp? machines' current' = some op) :
    ofMachines machines = ofMachines machines' ∧
      current.machineIds.length = current'.machineIds.length ∧
      current.votingMachineIds.length = current'.votingMachineIds.length := by
  obtain ⟨-, -, hassertion, heffect⟩ := addOp?_eq_some h
  obtain ⟨-, -, hassertion', heffect'⟩ := addOp?_eq_some h'
  rw [hassertion] at hassertion'
  rw [heffect] at heffect'
  simp only [Assertion.fields.injEq, List.cons.injEq, Condition.size.injEq, true_and,
    and_true] at hassertion'
  simp only [Effect.update.injEq, List.cons.injEq, Update.addToSet.injEq, true_and,
    and_true] at heffect'
  refine ⟨?_, hassertion'⟩
  apply eq_of_lists_eq
  · exact string_map_injective heffect'.1
  · exact string_map_injective heffect'.2

theorem addOp?_congr (h : ofMachines machines = ofMachines machines') (current : StateServers) :
    addOp? machines current = addOp? machines' current := by
  rw [addOp?, addOp?, h]

theorem adding_congr (h : ofMachines machines = ofMachines machines') (servers : StateServers) :
    servers.adding machines = servers.adding machines' := by
  rw [adding, adding, h]

theorem length_lt_adding (h : addOp? machines current = some op) (servers : StateServers) :
    servers.machineIds.length < (servers.adding machines).machineIds.length := by
  change _ < (servers.machineIds ++ (ofMachines machines).machineIds).length
  rw [List.length_append]
  have hsome : (ofMachines machines).machineIds ≠ [] := by
    intro hempty
    simp [addOp?, hempty] at h
  have hpositive := List.length_pos_iff.mpr hsome
  omega

end StateServers

/-- A transaction that updates the lists of state servers adds root machines, and was planned
from lists that have been read. -/
theorem Submission.of_update {limit : Nat} {past : History} {ops : List Op} {op : Op}
    (h : Submission limit past ops) (hmem : op ∈ ops)
    (hcollection : op.collection = Layout.stateServers)
    (hupdate : ∃ updates, op.effect = .update updates) :
    ∃ (plans : List CreationPlan) (read : StateServers),
      (∀ plan ∈ plans, ∃ template number, plan = .ofRoot template (MachineId.root number)) ∧
      read.WereRead past ∧ StateServers.addOp? (plans.map (·.machine)) read = some op ∧
      ops = Environment.checkAliveOp :: (plans.flatMap (·.ops) ++
        (StateServers.addOp? (plans.map (·.machine)) read).toList) := by
  obtain ⟨updates, hupdate⟩ := hupdate
  have hinsert : ¬∃ document, op.effect = .insert document := by
    rintro ⟨document, hdocument⟩
    rw [hupdate] at hdocument
    cases hdocument
  -- Every other operation inserts a document or is about another collection.
  cases h with
  | establish uuid constraints =>
    simp only [List.mem_cons, List.not_mem_nil, or_false] at hmem
    rcases hmem with rfl | rfl | rfl
    · exact absurd ⟨_, rfl⟩ hinsert
    · exact absurd ⟨_, rfl⟩ hinsert
    · exact absurd ⟨_, rfl⟩ hinsert
  | destroy =>
    obtain rfl := List.mem_singleton.mp hmem
    exact absurd hcollection (by decide)
  | setConstraints constraints =>
    simp only [List.mem_cons, List.not_mem_nil, or_false] at hmem
    rcases hmem with rfl | rfl
    · exact absurd hcollection (by decide)
    · have hne : Layout.constraints ≠ Layout.stateServers := by decide
      exact absurd hcollection hne
  | report id kinds =>
    simp only [List.mem_cons, List.not_mem_nil, or_false] at hmem
    rcases hmem with rfl | rfl
    · exact absurd hcollection (by decide)
    · have hne : Layout.machines ≠ Layout.stateServers := by decide
      exact absurd hcollection hne
  | roots plans read hplans hgrowth =>
    have hroot := CreationPlan.exists_ofRoot hplans
    rcases List.mem_cons.mp hmem with rfl | hmem
    · exact absurd hcollection (by decide)
    rcases List.mem_append.mp hmem with hmem | hmem
    · obtain ⟨plan, hplan, hmem⟩ := List.mem_flatMap.mp hmem
      obtain ⟨template, number, rfl⟩ := hroot plan hplan
      exact absurd (CreationPlan.mem_ofRoot_ops hmem).2 hinsert
    · have hadd := Option.mem_toList.mp hmem
      rcases hgrowth with hnone | ⟨hread, -⟩
      · rw [StateServers.addOp?_eq_none_iff.mpr (by simpa using hnone)] at hadd
        cases hadd
      · exact ⟨plans, read, hroot, hread, hadd, rfl⟩
  | inside raw template parent kind number host haccepted hinstance hkind hhost hsupports hnumber =>
    rcases List.mem_cons.mp hmem with rfl | hmem
    · exact absurd hcollection (by decide)
    rcases List.mem_append.mp hmem with hmem | hmem
    · exact absurd (Machine.mem_insertOps hmem).2 hinsert
    · simp only [List.mem_cons, List.not_mem_nil, or_false] at hmem
      rcases hmem with rfl | rfl
      · have hne : Layout.containerRefs ≠ Layout.stateServers := by decide
        exact absurd hcollection hne
      · exact absurd ⟨_, rfl⟩ hinsert
  | insideNew raw template rawParent parentTemplate kind parentNumber number haccepted hparent
      hinstance hparentInstance hkind hparentNumber hnumber =>
    rcases List.mem_cons.mp hmem with rfl | hmem
    · exact absurd hcollection (by decide)
    · exact absurd (CreationPlan.mem_ofInsideNew_ops hmem).2 hinsert

variable {world later : World} {thread : Thread} {ops : List Op} {machines : List Machine}
  {current : StateServers} {op : Op}

/-- A plan that takes place finds the lists that it was made from, and adds to their ends. -/
theorem World.Commits.servers_eq (hcommit : world.Commits thread ops later)
    (h : Reachable world) (hop : StateServers.addOp? machines current = some op)
    (hmem : op ∈ ops) (hread : current.WereRead thread.past) :
    world.store.servers? = some current ∧
      later.store.servers? = some (current.adding machines) := by
  obtain ⟨hthread, -, htransact⟩ := hcommit.cases
  obtain ⟨hcollection, -, -, heffect⟩ := StateServers.addOp?_eq_some hop
  obtain ⟨plans, read, hroot, -, hplanned, rfl⟩ :=
    (hcommit.submission h).of_update hmem hcollection ⟨_, heffect⟩
  obtain ⟨hsame, hmachines, hvoting⟩ := StateServers.addOp?_inj hop hplanned
  obtain ⟨records, hholds, hconsistent⟩ := h.holds
  have hbatch := CreationPlan.batch_of_roots hroot read
  obtain ⟨hnodup, hfresh, -⟩ := hbatch.machine_add hholds htransact
  obtain ⟨hafter, hlength⟩ :=
    hholds.servers_add hconsistent hnodup hfresh htransact hbatch.servers_eq
  rcases hlength with hnone | ⟨servers, hservers, hlength⟩
  · rw [StateServers.addOp?_eq_none_iff.mpr hnone] at hplanned
    cases hplanned
  · obtain ⟨present, hpresent, hprecedes⟩ := h.read_precedes thread hthread current hread
    obtain rfl : present = servers := by
      rw [hholds.servers?_eq, hservers] at hpresent
      exact (Option.some.inj hpresent).symm
    -- The lists have the lengths of those that were read, of which they are an extension.
    obtain rfl : current = present := hprecedes.eq_of_length
      (hlength.1.trans hmachines.symm) (hlength.2.trans hvoting.symm)
    refine ⟨hpresent, ?_⟩
    rw [Store.servers?_of_get? hafter]
    change records.servers?.map _ = _
    rw [hservers, StateServers.adding_congr hsame]
    rfl

/-- Where a plan takes place that adds state servers, the lists are those that it was made
from and the added ones go to their ends; and no other plan that was made from the same lists
takes place afterwards. -/
theorem no_lost_update (h : Reachable world) (hcommit : world.Commits thread ops later)
    (hop : StateServers.addOp? machines current = some op) (hmem : op ∈ ops) :
    (∃ read : StateServers, read.WereRead thread.past ∧
      StateServers.addOp? machines read = some op) ∧
    (current.WereRead thread.past →
      world.store.servers? = some current ∧
      later.store.servers? = some
        { machineIds := current.machineIds ++
            (machines.filter (·.isStateServer)).map (·.id)
          votingMachineIds := current.votingMachineIds ++
            (machines.filter (·.hasVote)).map (·.id) } ∧
      ∀ {events : List Event} {middle final : World} {thread' : Thread} {ops' : List Op}
        {machines' : List Machine} {op' : Op}, Run later events middle →
        middle.Commits thread' ops' final →
        StateServers.addOp? machines' current = some op' → op' ∈ ops' →
        ¬current.WereRead thread'.past) := by
  constructor
  · obtain ⟨hcollection, -, -, heffect⟩ := StateServers.addOp?_eq_some hop
    obtain ⟨plans, read, -, hread, hplanned, -⟩ :=
      (hcommit.submission h).of_update hmem hcollection ⟨_, heffect⟩
    obtain ⟨hsame, -⟩ := StateServers.addOp?_inj hop hplanned
    exact ⟨read, hread, (StateServers.addOp?_congr hsame read).trans hplanned⟩
  · intro hread
    obtain ⟨hbefore, hafter⟩ := hcommit.servers_eq h hop hmem hread
    refine ⟨hbefore, hafter, ?_⟩
    intro events middle final thread' ops' machines' op' hrun hcommit' hop' hmem' hread'
    have hlater : Reachable later := by
      obtain ⟨index, -, hstep⟩ := hcommit
      exact h.step hstep
    obtain ⟨hmiddle, -⟩ := hcommit'.servers_eq (hlater.run hrun) hop' hmem' hread'
    obtain ⟨servers, hservers, hprecedes⟩ := hrun.servers_precede hlater hafter
    obtain rfl : current = servers := Option.some.inj (hmiddle.symm.trans hservers)
    have hlonger := StateServers.length_lt_adding hop current
    have hshorter := hprecedes.machineIds.length_le
    omega

/-- A world in which a plan for three state servers is about to be committed. -/
def World.planned : World :=
  founded.prepare none .raising

/-- In the founded world a plan for three state servers takes place, which was made from
empty lists. -/
theorem no_lost_update_founded :
    ∃ (world later : World) (thread : Thread) (ops : List Op) (machines : List Machine)
      (current : StateServers) (op : Op),
      Reachable world ∧ world.Commits thread ops later ∧
        StateServers.addOp? machines current = some op ∧ op ∈ ops ∧
        current.WereRead thread.past ∧ world.store.servers? = some current ∧
        later.store.servers? = some
          { machineIds := current.machineIds ++
              (machines.filter (·.isStateServer)).map (·.id)
            votingMachineIds := current.votingMachineIds ++
              (machines.filter (·.hasVote)).map (·.id) } := by
  have hreachable : Reachable World.planned := by
    unfold World.planned World.prepare
    exact World.reachable_founded.carry _ none _ (World.permits_founded _)
  have hready : World.planned.threads[1]?.any (·.isReady World.planned.store fun op =>
      op.collection = Layout.stateServers ∧ op.effect.isUpdate = true) = true := by
    decide +kernel
  obtain ⟨thread, ops, later, op, hcommit, hmem, htest⟩ := World.commits_of_isReady hready
  obtain ⟨hcollection, hupdate⟩ := of_decide_eq_true htest
  obtain ⟨plans, current, -, hread, hop, -⟩ :=
    (hcommit.submission hreachable).of_update hmem hcollection (Store.Effect.of_isUpdate hupdate)
  obtain ⟨hbefore, hafter, -⟩ := (no_lost_update hreachable hcommit hop hmem).2 hread
  exact ⟨_, later, thread, ops, _, current, op, hreachable, hcommit, hop, hmem, hread, hbefore,
    hafter⟩

end ControlPlane
