import ControlPlane.Proofs.Records.Reading
import ControlPlane.Proofs.Store.Updating

/-!
# Adding state servers

The operation that adds state servers finds lists of the lengths that were
read.  As long as the ids are new and different it appends them, so that
nothing of what was planned is dropped as a duplicate.
-/

namespace ControlPlane.StateServers

open Json Store

/-- The state servers with those among added machines behind them. -/
def adding (servers : StateServers) (machines : List Machine) : StateServers where
  machineIds := servers.machineIds ++ (ofMachines machines).machineIds
  votingMachineIds := servers.votingMachineIds ++ (ofMachines machines).votingMachineIds

variable {machines : List Machine} {servers current : StateServers} {op : Op}

theorem eq_of_lists_eq {servers servers' : StateServers}
    (hmachines : servers.machineIds = servers'.machineIds)
    (hvoting : servers.votingMachineIds = servers'.votingMachineIds) : servers = servers' := by
  obtain ⟨machineIds, votingMachineIds⟩ := servers
  exact congr (congrArg StateServers.mk hmachines) hvoting

theorem machineIds_sublist (machines : List Machine) :
    (ofMachines machines).machineIds.Sublist (machines.map (·.id)) :=
  List.filter_sublist.map _

theorem votingMachineIds_sublist (machines : List Machine) :
    (ofMachines machines).votingMachineIds.Sublist (machines.map (·.id)) :=
  List.filter_sublist.map _

theorem ofMachines_eq_empty (h : ∀ machine ∈ machines, machine.isStateServer = false) :
    ofMachines machines = {} := by
  have hserver : machines.filter (·.isStateServer) = [] :=
    List.filter_eq_nil_iff.mpr fun machine hmem => by simp [h machine hmem]
  have hvote : machines.filter (·.hasVote) = [] :=
    List.filter_eq_nil_iff.mpr fun machine hmem => by simp [Machine.hasVote, h machine hmem]
  rw [ofMachines, hserver, hvote]
  rfl

theorem adding_eq_self (h : ∀ machine ∈ machines, machine.isStateServer = false)
    (servers : StateServers) : servers.adding machines = servers := by
  simp [adding, ofMachines_eq_empty h]

/-- There is something to add where one of the machines is a state server. -/
theorem addOp?_eq_none_iff :
    addOp? machines current = none ↔ ∀ machine ∈ machines, machine.isStateServer = false := by
  simp [addOp?, ofMachines]

/-- The operation is about the lists alone, has two conditions and adds to both lists. -/
theorem addOp?_eq_some (h : addOp? machines current = some op) :
    op.collection = Layout.stateServers ∧ op.id = Layout.environmentKey ∧
      op.assertion = .fields
        [.size "machine_ids" current.machineIds.length,
          .size "voting_machine_ids" current.votingMachineIds.length] ∧
      op.effect = .update
        [.addToSet "machine_ids" ((ofMachines machines).machineIds.map .string),
          .addToSet "voting_machine_ids" ((ofMachines machines).votingMachineIds.map .string)] := by
  simp only [addOp?] at h
  split at h
  · cases h
  · cases h
    exact ⟨rfl, rfl, rfl, rfl⟩

/-- The assertion holds of lists that have the lengths that were read. -/
theorem failure?_addOp?_iff {id : String} (h : addOp? machines current = some op) :
    op.assertion.failure? (some (StateServersRecord.toValue { id, servers })) = none ↔
      servers.machineIds.length = current.machineIds.length ∧
        servers.votingMachineIds.length = current.votingMachineIds.length := by
  obtain ⟨-, -, hassertion, -⟩ := addOp?_eq_some h
  have hfield := fun name =>
    Value.field_ofFields (StateServersRecord.toFields_nodup { id, servers }) name
  have hmachines : (StateServersRecord.toValue { id, servers }).field "machine_ids" =
      .strings servers.machineIds := hfield "machine_ids"
  have hvoting : (StateServersRecord.toValue { id, servers }).field "voting_machine_ids" =
      .strings servers.votingMachineIds := hfield "voting_machine_ids"
  rw [hassertion]
  simp [Assertion.failure?, Condition.holds, hmachines, hvoting, Value.strings]

/-- The lists that are found have the lengths that were read. -/
theorem length_eq_of_addOp? {id : String} (h : addOp? machines current = some op)
    (hholds : op.assertion.failure? (some (StateServersRecord.toValue { id, servers })) = none) :
    servers.machineIds.length = current.machineIds.length ∧
      servers.votingMachineIds.length = current.votingMachineIds.length :=
  (failure?_addOp?_iff h).mp hholds

/-- What is added to both lists goes to their ends. -/
theorem apply_addOp? {id : String} (h : addOp? machines current = some op)
    (hnodup : (machines.map (·.id)).Nodup)
    (hfresh : ∀ id ∈ machines.map (·.id),
      id ∉ servers.machineIds ∧ id ∉ servers.votingMachineIds) :
    op.effect.apply (some (StateServersRecord.toValue { id, servers })) =
      .ok (some (StateServersRecord.toValue { id, servers := servers.adding machines })) := by
  obtain ⟨-, -, -, heffect⟩ := addOp?_eq_some h
  have hmachines := machineIds_sublist machines
  have hvoting := votingMachineIds_sublist machines
  have hunion := union_map_string _ (hnodup.sublist hmachines)
    fun id hid => (hfresh id (hmachines.subset hid)).1
  have hunionVoting := union_map_string _ (hnodup.sublist hvoting)
    fun id hid => (hfresh id (hvoting.subset hid)).2
  let middle : StateServers :=
    { servers with machineIds := (servers.adding machines).machineIds }
  have hfirst : Update.apply (StateServersRecord.toValue { id, servers })
      (.addToSet "machine_ids" ((ofMachines machines).machineIds.map .string)) =
        .ok (StateServersRecord.toValue { id, servers := middle }) := by
    refine Update.apply_addToSet_ofFields (servers.machineIds.map .string) rfl ?_
    rw [hunion]
    exact replaces_of_nodup [("_id", some (.string id))]
      (StateServersRecord.toFields_nodup { id, servers }) _
  have hsecond : Update.apply (StateServersRecord.toValue { id, servers := middle })
      (.addToSet "voting_machine_ids" ((ofMachines machines).votingMachineIds.map .string)) =
        .ok (StateServersRecord.toValue { id, servers := servers.adding machines }) := by
    refine Update.apply_addToSet_ofFields (servers.votingMachineIds.map .string) rfl ?_
    rw [hunionVoting]
    exact replaces_of_nodup
      [("_id", some (.string id)), ("machine_ids", some (.strings middle.machineIds))]
      (StateServersRecord.toFields_nodup { id, servers := middle }) _
  rw [heffect]
  simp only [Effect.apply, List.foldlM_cons, List.foldlM_nil, hfirst, hsecond, bind, Except.bind,
    pure, Except.pure]

end ControlPlane.StateServers
