import ControlPlane.Proofs.Undisturbed.Roots

/-!
# What a transaction creates

A batch that is committed creates its machines and no others, each with the
constraints of its template.  Nothing has to be known of the store for this:
an insertion asserts that there is no such document yet.
-/

namespace ControlPlane

open Json Store

/-- Between two stores a machine has come to be, with its constraints. -/
structure Store.Creates (store after : Store) (machine : Machine) (constraints : Constraints) :
    Prop where
  fresh : store.get? Layout.machines machine.id = none
  found : after.get? Layout.machines machine.id = some machine.toValue
  constrained : after.get? Layout.constraints (Layout.machineKey machine.id) =
    some constraints.toValue

namespace Batch

variable {store after : Store} {ops : List Op} {added : List Machine} {current : StateServers}
  {machine : Machine} {template : Template} {id : String} {document : Value}
  (hbatch : Batch added current ops)
  (hcommit : store.transact (Environment.checkAliveOp :: ops) = .ok after)

include hbatch hcommit

/-- A machine that has come to be is one of those that were added. -/
theorem exists_machine (hfresh : store.get? Layout.machines id = none)
    (hget : after.get? Layout.machines id = some document) :
    ∃ machine ∈ added, machine.id = id ∧ document = machine.toValue := by
  rw [(hbatch.inserts hcommit).get?_eq, hfresh] at hget
  cases hinserted : Table.get? id (added.map fun machine => (machine.id, machine.toValue)) with
  | none =>
    rw [hinserted] at hget
    cases hget
  | some found =>
    rw [hinserted] at hget
    obtain rfl : found = document := Option.some.inj hget
    obtain ⟨machine, hmachine, heq⟩ := List.mem_map.mp (Table.mem_of_get? hinserted)
    obtain ⟨rfl, rfl⟩ := Prod.mk.inj heq
    exact ⟨machine, hmachine, rfl, rfl⟩

/-- A machine whose records are inserted comes to be with the constraints of its template. -/
theorem creates (hmachine : machine ∈ added)
    (honly : Op.OnlyInsert Layout.constraints ops)
    (hmem : ∀ op ∈ machine.insertOps template, op ∈ ops) :
    store.Creates after machine template.constraints where
  fresh := by
    apply (hbatch.inserts hcommit).fresh
    rw [List.map_map]
    exact List.mem_map.mpr ⟨machine, hmachine, rfl⟩
  found := by
    apply Store.get?_of_insert_mem hcommit (by decide) hbatch.onlyInsert
    exact hmem _ (List.mem_append_left _ List.mem_cons_self)
  constrained := by
    apply Store.get?_of_insert_mem hcommit (by decide) honly
    exact hmem _ (List.mem_append_left _ (List.mem_cons_of_mem _ List.mem_cons_self))

end Batch

namespace CreationPlan

variable {store after : Store} {plans : List CreationPlan} {current : StateServers}
  {template parentTemplate : Template} {kind : ContainerType} {parent id parentId : String}

/-- Plans of root machines create the machines that were planned. -/
theorem creates_root
    (hroot : ∀ plan ∈ plans, ∃ template number, plan = ofRoot template (MachineId.root number))
    (hcommit : store.transact (Environment.checkAliveOp :: (plans.flatMap (·.ops) ++
      (StateServers.addOp? (plans.map (·.machine)) current).toList)) = .ok after)
    (hplan : ofRoot template id ∈ plans) :
    store.Creates after (template.machine id none) template.constraints := by
  apply (batch_of_roots hroot current).creates hcommit
  · exact List.mem_map.mpr ⟨_, hplan, rfl⟩
  · exact onlyInsert_roots hroot (by decide)
  · intro op hop
    exact List.mem_append_left _
      (List.mem_flatMap.mpr ⟨_, hplan, List.mem_append_left _ hop⟩)

/-- The plan of a container creates it. -/
theorem creates_inside (hserver : (template.machine id (some kind)).isStateServer = false)
    (hcommit : store.transact (Environment.checkAliveOp ::
      (ofInside template parent kind id).ops) = .ok after) :
    store.Creates after (template.machine id (some kind)) template.constraints := by
  apply (batch_of_inside parent hserver).creates hcommit (List.mem_singleton_self _)
  · have hother : Layout.containerRefs ≠ Layout.constraints := by decide
    intro op hop hcollection
    rcases List.mem_append.mp hop with hop | hop
    · exact (Machine.mem_insertOps hop).2
    · simp only [List.mem_cons, List.not_mem_nil, or_false] at hop
      rcases hop with rfl | rfl
      · exact absurd hcollection hother
      · exact ⟨_, rfl⟩
  · intro op hop
    exact List.mem_append_left _ hop

/-- The plan of a container and its host creates both. -/
theorem creates_insideNew
    (hparent : (parentTemplate.machine parentId none).isStateServer = false)
    (hserver : (template.machine id (some kind)).isStateServer = false)
    (hcommit : store.transact (Environment.checkAliveOp ::
      (ofInsideNew template parentTemplate kind parentId id).ops) = .ok after) :
    store.Creates after (parentTemplate.machine parentId none) parentTemplate.constraints ∧
      store.Creates after (template.machine id (some kind)) template.constraints := by
  have hbatch := batch_of_insideNew hparent hserver
  have honly : Op.OnlyInsert Layout.constraints
      (ofInsideNew template parentTemplate kind parentId id).ops :=
    fun op hop _ => (mem_ofInsideNew_ops hop).2
  constructor
  · apply hbatch.creates hcommit List.mem_cons_self honly
    intro op hop
    exact List.mem_append_left _ (List.mem_append_left _ hop)
  · apply hbatch.creates hcommit (List.mem_cons_of_mem _ (List.mem_singleton_self _)) honly
    intro op hop
    exact List.mem_append_left _ (List.mem_append_right _ hop)

end CreationPlan

end ControlPlane
