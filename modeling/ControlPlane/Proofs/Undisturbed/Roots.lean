import ControlPlane.Proofs.Undisturbed.Insertion

/-!
# Adding root machines without disturbance

Plans of root machines with the numbers that come next are committed in a store
that is in order, whether or not state servers are among them.  Each machine
then has its records, and only the counter of root machines has moved on.
-/

namespace ControlPlane

open Json Store

namespace CreationPlan

section Batch

variable {plans : List CreationPlan} {current : StateServers} {store after : Store}
  {environment : Environment} {records : Records}

theorem mem_allPlaces_of_mem_ofRoot {template : Template} {id : String} {op : Op}
    (h : op ∈ (ofRoot template id).ops) : (op.collection, op.id) ∈ Machine.allPlaces id :=
  (places_ofRoot_sublist template id).subset
    (Op.mem_places_of_isInsertion h (isInsertion_of_mem_ofRoot h))

variable (hroot : ∀ plan ∈ plans, ∃ template number, plan = ofRoot template (MachineId.root number))

include hroot

theorem onlyInsert_roots {collection : String} (hcollection : collection ≠ Layout.stateServers) :
    Op.OnlyInsert collection (plans.flatMap (·.ops) ++
      (StateServers.addOp? (plans.map (·.machine)) current).toList) := by
  intro op hop hsame
  rcases mem_roots_ops hroot hop with ⟨-, hinsert⟩ | hserver
  · exact hinsert
  · exact absurd (hsame.symm.trans hserver) hcollection

/-- A batch of root machines names their places, and the lists of state servers if one of them is
a state server. -/
theorem place_of_mem_roots {op : Op} (hop : op ∈ plans.flatMap (·.ops) ++
      (StateServers.addOp? (plans.map (·.machine)) current).toList) :
    (∃ plan ∈ plans, (op.collection, op.id) ∈ Machine.allPlaces plan.machine.id) ∨
      (op.collection, op.id) = (Layout.stateServers, Layout.environmentKey) ∧
        StateServers.addOp? (plans.map (·.machine)) current = some op := by
  rcases List.mem_append.mp hop with hop | hop
  · obtain ⟨plan, hplan, hop⟩ := List.mem_flatMap.mp hop
    obtain ⟨template, number, rfl⟩ := hroot plan hplan
    exact .inl ⟨_, hplan, mem_allPlaces_of_mem_ofRoot hop⟩
  · have hserver := Option.mem_toList.mp hop
    obtain ⟨hcollection, hid, -⟩ := StateServers.addOp?_eq_some hserver
    exact .inr ⟨Prod.ext hcollection hid, hserver⟩

/-- An instance is inserted by the plan of its machine. -/
theorem exists_plan_of_instance {op : Op} (hop : op ∈ plans.flatMap (·.ops) ++
      (StateServers.addOp? (plans.map (·.machine)) current).toList)
    (hcollection : op.collection = Layout.instanceData) :
    ∃ plan ∈ plans, op.id = plan.machine.id ∧ plan.machine.instanceId.isSome = true := by
  have hother : Layout.stateServers ≠ Layout.instanceData ∧
      Layout.containerRefs ≠ Layout.instanceData := by decide
  rcases List.mem_append.mp hop with hop | hop
  · obtain ⟨plan, hplan, hop⟩ := List.mem_flatMap.mp hop
    obtain ⟨template, number, rfl⟩ := hroot plan hplan
    rcases List.mem_append.mp hop with hop | hop
    · exact ⟨_, hplan, Machine.isSome_instanceId_of_mem hop hcollection⟩
    · obtain rfl := List.mem_singleton.mp hop
      exact absurd hcollection hother.2
  · have hserver := (StateServers.addOp?_eq_some (Option.mem_toList.mp hop)).1
    exact absurd (hserver.symm.trans hcollection) hother.1

variable (hfree : ∀ plan ∈ plans, ∀ place ∈ Machine.allPlaces plan.machine.id,
    store.get? place.1 place.2 = none)
  (hnodup : (plans.map (·.machine.id)).Nodup)

include hfree hnodup

/-- Root machines whose places are free can be added, if the lists of state servers are as they
were read. -/
theorem exists_transact_roots (h : store.Regular environment records)
    (halive : environment.life = .alive)
    (hservers : ∀ op, StateServers.addOp? (plans.map (·.machine)) current = some op →
      op.assertion.failure? (store.get? Layout.stateServers Layout.environmentKey) = none) :
    ∃ after, store.transact (Environment.checkAliveOp :: (plans.flatMap (·.ops) ++
      (StateServers.addOp? (plans.map (·.machine)) current).toList)) = .ok after := by
  apply h.exists_transact halive (known_roots hroot current)
    (places_roots_sublist hroot current).subperm hnodup
  · intro id hid
    obtain ⟨plan, hplan, rfl⟩ := List.mem_map.mp hid
    exact hfree plan hplan
  · intro op hop hinsertion
    rcases List.mem_append.mp hop with hop | hop
    · obtain ⟨plan, hplan, hop⟩ := List.mem_flatMap.mp hop
      obtain ⟨template, number, rfl⟩ := hroot plan hplan
      exact absurd (isInsertion_of_mem_ofRoot hop) hinsertion
    · have hserver := Option.mem_toList.mp hop
      obtain ⟨hcollection, hid, -⟩ := StateServers.addOp?_eq_some hserver
      rw [hcollection, hid]
      exact hservers op hserver

/-- Each root machine that has been added has its records. -/
theorem registers_roots
    (hcommit : store.transact (Environment.checkAliveOp :: (plans.flatMap (·.ops) ++
      (StateServers.addOp? (plans.map (·.machine)) current).toList)) = .ok after)
    {template : Template} {id : String} (hplan : ofRoot template id ∈ plans) :
    after.Registers (template.machine id none) template.constraints (template.hardware.getD {})
      [] := by
  have hservers : Layout.stateServers ∉ Layout.containerRefs :: Machine.ownCollections := by decide
  have honly : ∀ collection ∈ Layout.containerRefs :: Machine.ownCollections,
      Op.OnlyInsert collection (plans.flatMap (·.ops) ++
        (StateServers.addOp? (plans.map (·.machine)) current).toList) := fun collection hmem =>
    onlyInsert_roots hroot (ne_of_mem_of_not_mem hmem hservers)
  have hops : ∀ op ∈ (ofRoot template id).ops, op ∈ plans.flatMap (·.ops) ++
      (StateServers.addOp? (plans.map (·.machine)) current).toList := fun op hop =>
    List.mem_append_left _ (List.mem_flatMap.mpr ⟨_, hplan, hop⟩)
  apply registers_of_commit hcommit (batch_of_roots hroot current).environment
  · intro op hop
    exact hops op (List.mem_append_left _ hop)
  · intro collection hcollection
    exact honly collection (List.mem_cons_of_mem _ hcollection)
  · exact hfree _ hplan
  · intro hnone op hop hcollection hid
    -- An instance with this id is inserted by a plan with this id, and there is only this plan.
    obtain ⟨plan, hmem, hsame, hsome⟩ := exists_plan_of_instance hroot hop hcollection
    obtain rfl : plan = ofRoot template id :=
      List.inj_on_of_nodup_map hnodup hmem hplan (hsame.symm.trans hid)
    exact absurd hnone (Option.isSome_iff_ne_none.mp hsome)
  · apply get?_of_insert_mem hcommit (by decide) (honly _ List.mem_cons_self)
    exact hops _ (List.mem_append_right _ (List.mem_singleton_self _))

omit hnodup hfree in
/-- Adding root machines leaves everything else alone. -/
theorem get?_eq_roots
    (hcommit : store.transact (Environment.checkAliveOp :: (plans.flatMap (·.ops) ++
      (StateServers.addOp? (plans.map (·.machine)) current).toList)) = .ok after)
    {collection id : String}
    (hplace : ∀ plan ∈ plans, (collection, id) ∉ Machine.allPlaces plan.machine.id)
    (hservers : (collection, id) ≠ (Layout.stateServers, Layout.environmentKey) ∨
      ∀ plan ∈ plans, plan.machine.isStateServer = false) :
    after.get? collection id = store.get? collection id := by
  apply get?_eq_of_commit hcommit (batch_of_roots hroot current).environment
  intro op hop heq
  rcases place_of_mem_roots hroot hop with ⟨plan, hplan, hmem⟩ | ⟨hserver, hop⟩
  · exact hplace plan hplan (heq ▸ hmem)
  · rcases hservers with hne | hnone
    · exact hne (heq.symm.trans hserver)
    · rw [StateServers.addOp?_eq_none_iff.mpr (by simpa using hnone)] at hop
      cases hop

end Batch

end CreationPlan

/-! ## Consecutive numbers -/

/-- The machines that templates for root machines ask for, with consecutive numbers. -/
def Machine.rootsFrom (count : Nat) (raws : List Template) : List Machine :=
  raws.mapIdx fun index raw => raw.asked (MachineId.root (count + index)) none

namespace CreationPlan

variable {defaults : Constraints} {count : Nat} {raws : List Template}

theorem map_machine_rootsFrom (defaults : Constraints) (count : Nat) (raws : List Template) :
    (rootsFrom defaults count raws).map (·.machine) = Machine.rootsFrom count raws := by
  apply List.ext_getElem
  · simp [rootsFrom, Machine.rootsFrom]
  · intro index hindex hindex'
    simp [rootsFrom, Machine.rootsFrom, ofRoot, Template.machine_normalised]

theorem mem_rootsFrom {index : Nat} {raw : Template} (h : raws[index]? = some raw) :
    ofRoot (raw.normalised defaults) (MachineId.root (count + index)) ∈
      rootsFrom defaults count raws := by
  obtain ⟨hindex, rfl⟩ := List.getElem?_eq_some_iff.mp h
  exact List.mem_mapIdx.mpr ⟨index, hindex, rfl⟩

theorem exists_ofRoot_rootsFrom (defaults : Constraints) (count : Nat) (raws : List Template) :
    ∀ plan ∈ rootsFrom defaults count raws, ∃ template number,
      plan = ofRoot template (MachineId.root number) := by
  intro plan hplan
  obtain ⟨index, hindex, rfl⟩ := List.mem_mapIdx.mp hplan
  exact ⟨_, _, rfl⟩

theorem id_of_mem_rootsFrom {plan : CreationPlan} (h : plan ∈ rootsFrom defaults count raws) :
    ∃ index < raws.length, plan.machine.id = MachineId.root (count + index) := by
  obtain ⟨index, hindex, rfl⟩ := List.mem_mapIdx.mp h
  exact ⟨index, hindex, rfl⟩

theorem nodup_rootsFrom : ((rootsFrom defaults count raws).map (·.machine.id)).Nodup := by
  have hids : (rootsFrom defaults count raws).map (·.machine.id) =
      (List.range raws.length).map fun index => MachineId.root (count + index) := by
    apply List.ext_getElem
    · simp [rootsFrom]
    · intro index hindex hindex'
      simp [rootsFrom, ofRoot, Template.machine]
  rw [hids]
  apply List.Nodup.map _ List.nodup_range
  intro index index' heq
  exact Nat.add_left_cancel (MachineId.root_inj heq)

end CreationPlan

/-- What there is after root machines with the next numbers have been added: their records, among
them the constraints of their templates over the defaults, without a container, and everything else
as it was but for the lists of state servers. -/
structure Store.GainsRoots (store after : Store) (defaults : Constraints) (raws : List Template) :
    Prop where
  tells : ∀ (index : Nat) (raw : Template), raws[index]? = some raw →
    after.Tells (raw.asked (MachineId.root (store.count MachineId.rootCounter + index)) none)
      { raw.constraints.withFallbacks defaults with container := none } (raw.hardware.getD {}) []
  count : after.count MachineId.rootCounter = store.count MachineId.rootCounter + raws.length
  same : ∀ collection id, (collection, id) ≠ (Layout.sequence, MachineId.rootCounter) →
    (collection, id) ≠ (Layout.stateServers, Layout.environmentKey) →
    (∀ index < raws.length, (collection, id) ∉
      Machine.allPlaces (MachineId.root (store.count MachineId.rootCounter + index))) →
    after.get? collection id = store.get? collection id

/-- Root machines whose numbers have just been drawn can be added. -/
theorem Store.Regular.exists_gainsRoots {store drawn : Store} {environment : Environment}
    {records : Records} {raws : List Template} {count : Nat}
    (h : store.Regular environment records) (halive : environment.life = .alive)
    (hcount : store.count MachineId.rootCounter = count)
    (hdraws : store.Draws drawn MachineId.rootCounter raws.length) (hformed : drawn.Formed)
    (defaults : Constraints) (current : StateServers)
    (hservers : ∀ op, StateServers.addOp? (Machine.rootsFrom count raws) current = some op →
      op.assertion.failure? (store.get? Layout.stateServers Layout.environmentKey) = none) :
    ∃ after, drawn.transact (Environment.checkAliveOp ::
        ((CreationPlan.rootsFrom defaults count raws).flatMap (·.ops) ++
          (StateServers.addOp? (Machine.rootsFrom count raws) current).toList)) = .ok after ∧
      store.GainsRoots after defaults raws := by
  subst hcount
  have hdrawn := h.draws hdraws hformed
  have hroot := CreationPlan.exists_ofRoot_rootsFrom defaults
    (store.count MachineId.rootCounter) raws
  have hfree : ∀ plan ∈ CreationPlan.rootsFrom defaults (store.count MachineId.rootCounter) raws,
      ∀ place ∈ Machine.allPlaces plan.machine.id, drawn.get? place.1 place.2 = none := by
    intro plan hplan
    obtain ⟨index, -, hid⟩ := CreationPlan.id_of_mem_rootsFrom hplan
    rw [hid]
    exact hdraws.free (h.free (.inl ⟨rfl, rfl⟩) (Nat.le_add_right _ _))
  have hsequence : Layout.stateServers ≠ Layout.sequence := by decide
  rw [← hdraws.get?_eq hsequence, ← CreationPlan.map_machine_rootsFrom defaults] at hservers
  rw [← CreationPlan.map_machine_rootsFrom defaults]
  obtain ⟨after, hcommit⟩ := CreationPlan.exists_transact_roots hroot hfree
    CreationPlan.nodup_rootsFrom hdrawn halive hservers
  refine ⟨after, hcommit, ?_, ?_, ?_⟩
  · intro index raw hraw
    have hregisters := CreationPlan.registers_roots hroot hfree CreationPlan.nodup_rootsFrom
      hcommit (CreationPlan.mem_rootsFrom hraw)
    rw [Template.machine_normalised] at hregisters
    exact hregisters.tells
  · have hown : Layout.sequence ∉ Layout.containerRefs :: Machine.ownCollections := by decide
    rw [← hdraws.count]
    apply count_congr
    apply CreationPlan.get?_eq_roots hroot hcommit
    · intro plan _ hmem
      exact hown (Machine.fst_mem_of_mem_allPlaces hmem)
    · exact .inl fun heq => hsequence (congrArg Prod.fst heq).symm
  · intro collection id hcounter hlists hplaces
    rw [CreationPlan.get?_eq_roots hroot hcommit]
    · exact hdraws.same collection id fun ⟨hcollection, hid⟩ => hcounter (Prod.ext hcollection hid)
    · intro plan hplan
      obtain ⟨index, hindex, hid⟩ := CreationPlan.id_of_mem_rootsFrom hplan
      rw [hid]
      exact hplaces index hindex
    · exact .inl hlists

end ControlPlane
