import ControlPlane.Proofs.Records.Holding

/-!
# Batches that add machines

A batch inserts the records of new machines and adds the state servers among
them to the lists.  If it is committed, the machines are new and different,
the lists have the lengths that were read, and the environment is alive.
-/

namespace ControlPlane

open Json Store

variable {limit : Nat} {store after : Store} {records : Records}
  {ops : List Op} {added : List Machine} {current : StateServers}

theorem Table.get?_map_id {α : Type} (f : Machine → α) (added : List Machine) (id : String) :
    get? id (added.map fun machine => (machine.id, f machine)) =
      (added.find? (·.id = id)).map f := by
  induction added with
  | nil => rfl
  | cons machine rest ih =>
    rw [List.map_cons, Table.get?, List.find?_cons]
    by_cases hid : machine.id = id
    · simp [hid]
    · simpa [hid] using ih

theorem Table.get?_map_key {α : Type} (f : String → α) (added : List Machine) (id : String) :
    get? id (added.map fun machine => (machine.id, f machine.id)) =
      if id ∈ added.map (·.id) then some (f id) else none := by
  rw [get?_map_id]
  split
  · next hmem =>
    obtain ⟨machine, hmachine, rfl⟩ := List.mem_map.mp hmem
    cases hfind : added.find? (·.id = machine.id) with
    | none => exact absurd (List.find?_eq_none.mp hfind machine hmachine) (by simp)
    | some found =>
      have hid : found.id = machine.id := by simpa using List.find?_some hfind
      rw [Option.map_some, hid]
  · next hmem =>
    rw [Option.map_eq_none_iff, List.find?_eq_none]
    intro machine hmachine heq
    exact hmem (List.mem_map.mpr ⟨machine, hmachine, by simpa using heq⟩)

theorem Records.childrenAmong_eq_nil {host : String}
    (h : ∀ machine ∈ added, machine.parent? ≠ some host) : childrenAmong added host = [] := by
  rw [childrenAmong, List.filter_eq_nil_iff.mpr fun machine hmem => by simp [h machine hmem]]
  rfl

theorem StateServers.Admits.congr_length {servers : StateServers}
    (h : current.Admits limit added)
    (hmachines : servers.machineIds.length = current.machineIds.length)
    (hvoting : servers.votingMachineIds.length = current.votingMachineIds.length) :
    servers.Admits limit added := by
  cases h with
  | first hempty hids hlimit =>
    refine .first ?_ hids hlimit
    simp only [isEmpty, ← List.length_eq_zero_iff, List.isEmpty_iff, Bool.and_eq_true] at hempty ⊢
    rw [hmachines, hvoting]
    exact hempty
  | raised hvote hodd hlimit => exact .raised hvote (hvoting ▸ hodd) (hvoting ▸ hlimit)

namespace Store.Holds

/-- Machines that are inserted are new and different. -/
theorem machine_add (hholds : store.Holds records)
    (hinserts : Inserts store after Layout.machines
      (added.map fun machine => (machine.id, machine.toValue))) :
    (added.map (·.id)).Nodup ∧ (∀ id ∈ added.map (·.id), records.machine? id = none) ∧
      ∀ id, after.get? Layout.machines id =
        ((records.add added).machine? id).map Machine.toValue := by
  have hkeys : (added.map fun machine => (machine.id, machine.toValue)).map (·.1) =
      added.map (·.id) := by
    rw [List.map_map]
    rfl
  have hnodup := hinserts.nodup
  have hfresh := hinserts.fresh
  rw [hkeys] at hnodup hfresh
  refine ⟨hnodup, ?_, ?_⟩
  · intro id hid
    have hnone := hfresh id hid
    rw [hholds.machine, Option.map_eq_none_iff] at hnone
    exact hnone
  · intro id
    rw [hinserts.get?_eq, Table.get?_map_id, hholds.machine]
    change _ = Option.map _ (added.find? (·.id = id) <|> records.machine? id)
    cases added.find? (·.id = id) with
    | some machine => rfl
    | none => rfl

/-- State servers that are added with the machines go to the ends of lists of
the lengths that were read. -/
theorem servers_add (hholds : store.Holds records) (hconsistent : records.Consistent)
    (hnodup : (added.map (·.id)).Nodup)
    (hfresh : ∀ id ∈ added.map (·.id), records.machine? id = none)
    (hcommit : store.transact ops = .ok after)
    (hops : ops.filter (·.names Layout.stateServers Layout.environmentKey) =
      (StateServers.addOp? added current).toList) :
    after.get? Layout.stateServers Layout.environmentKey =
        (records.add added).servers?.map (fun servers =>
          StateServersRecord.toValue { id := Layout.environmentKey, servers }) ∧
      ((∀ machine ∈ added, machine.isStateServer = false) ∨
        ∃ servers, records.servers? = some servers ∧
          servers.machineIds.length = current.machineIds.length ∧
          servers.votingMachineIds.length = current.votingMachineIds.length) := by
  obtain ⟨hcheck, happly⟩ := transact_eq_ok_iff.mp hcommit
  have hfold := foldlM_effects_eq_ok happly Layout.stateServers Layout.environmentKey
  change _ = Option.map _ (records.servers?.map (·.adding added)) ∧ _
  rw [hops, hholds.servers] at hfold
  cases hop : StateServers.addOp? added current with
  | none =>
    have hnone := StateServers.addOp?_eq_none_iff.mp hop
    rw [hop] at hfold
    refine ⟨?_, .inl hnone⟩
    rw [← Except.ok.inj hfold, Option.map_map]
    congr 1
    funext servers
    rw [Function.comp_apply, servers.adding_eq_self hnone]
  | some op =>
    rw [hop] at hops hfold
    obtain ⟨hcollection, hid, hassertion, -⟩ := StateServers.addOp?_eq_some hop
    have hmem : op ∈ ops := by
      have hfilter : op ∈ ops.filter (·.names Layout.stateServers Layout.environmentKey) := by
        rw [hops]
        exact List.mem_singleton_self op
      exact (List.mem_filter.mp hfilter).1
    have hholdsOp := checkFrom_eq_ok_iff.mp hcheck op hmem
    rw [hcollection, hid, hholds.servers] at hholdsOp
    cases hservers : records.servers? with
    | none =>
      rw [hservers, hassertion] at hholdsOp
      cases hholdsOp
    | some servers =>
      rw [hservers] at hholdsOp hfold
      have hlength := StateServers.length_eq_of_addOp? hop hholdsOp
      refine ⟨?_, .inr ⟨servers, rfl, hlength⟩⟩
      have hnew : ∀ id ∈ added.map (·.id),
          id ∉ servers.machineIds ∧ id ∉ servers.votingMachineIds := by
        intro id hid
        have hnone := hfresh id hid
        constructor
        · intro hserver
          simpa [hnone] using hconsistent.server servers id hservers (.inl hserver)
        · intro hserver
          simpa [hnone] using hconsistent.server servers id hservers (.inr hserver)
      rw [Option.toList_some, foldlM_effects_singleton, Option.map_some,
        StateServers.apply_addOp? hop hnodup hnew] at hfold
      exact (Except.ok.inj hfold).symm

end Store.Holds

/-- Operations that add machines and, with them, the state servers among them. -/
structure Batch (added : List Machine) (current : StateServers) (ops : List Op) : Prop where
  environment : ∀ op ∈ ops, op.collection ≠ Layout.environments
  onlyInsert : Op.OnlyInsert Layout.machines ops
  inserted_eq : Op.inserted Layout.machines ops =
    added.map fun machine => (machine.id, machine.toValue)
  servers_eq : ops.filter (·.names Layout.stateServers Layout.environmentKey) =
    (StateServers.addOp? added current).toList

/-- A batch that adds no state server need not touch their lists. -/
theorem batch_of_not_server
    (hmem : ∀ op ∈ ops,
      (op.collection ∈ Machine.ownCollections ∧ ∃ document, op.effect = .insert document) ∨
        op.collection = Layout.containerRefs)
    (hinserted : Op.inserted Layout.machines ops =
      added.map fun machine => (machine.id, machine.toValue))
    (hserver : ∀ machine ∈ added, machine.isStateServer = false) : Batch added {} ops where
  environment op hop heq := by
    rcases hmem op hop with ⟨hown, -⟩ | hrefs
    · exact absurd (heq ▸ hown) (by decide)
    · exact absurd (hrefs.symm.trans heq) (by decide)
  onlyInsert op hop heq := by
    rcases hmem op hop with ⟨-, heffect⟩ | hrefs
    · exact heffect
    · exact absurd (hrefs.symm.trans heq) (by decide)
  inserted_eq := hinserted
  servers_eq := by
    rw [StateServers.addOp?_eq_none_iff.mpr hserver]
    apply List.filter_eq_nil_iff.mpr
    intro op hop hnames
    have hcollection := (Op.names_iff.mp hnames).1
    rcases hmem op hop with ⟨hown, -⟩ | hrefs
    · exact absurd (hcollection ▸ hown) (by decide)
    · exact absurd (hrefs.symm.trans hcollection) (by decide)

namespace Batch

/-- The machines of a batch that is committed are new and different, and no others come to be. -/
theorem inserts (hbatch : Batch added current ops)
    (hcommit : store.transact (Environment.checkAliveOp :: ops) = .ok after) :
    Inserts store after Layout.machines
      (added.map fun machine => (machine.id, machine.toValue)) := by
  obtain ⟨-, happly⟩ := transact_eq_ok_iff.mp hcommit
  have halive : Environment.checkAliveOp.collection ≠ Layout.machines := by decide
  rw [← hbatch.inserted_eq, ← Op.inserted_cons_of_ne halive]
  apply inserts_of_onlyInsert happly
  intro op hop hmachines
  rcases List.mem_cons.mp hop with rfl | hop
  · exact absurd hmachines (by decide)
  · exact hbatch.onlyInsert op hop hmachines

variable (hbatch : Batch added current ops) (hholds : store.Holds records)
  (hcommit : store.transact (Environment.checkAliveOp :: ops) = .ok after)

include hbatch hholds hcommit

theorem machine_add :
    (added.map (·.id)).Nodup ∧ (∀ id ∈ added.map (·.id), records.machine? id = none) ∧
      ∀ id, after.get? Layout.machines id =
        ((records.add added).machine? id).map Machine.toValue :=
  hholds.machine_add (hbatch.inserts hcommit)

/-- A batch that is committed adds its machines to the records. -/
theorem change (hconsistent : records.Consistent)
    (hgrowth : (∀ machine ∈ added, machine.isStateServer = false) ∨ current.Admits limit added)
    (hplaced : ∀ machine ∈ added,
      machine.Placed fun host => ((records.add added).children? host).isSome = true)
    (hchildren : ∀ id, after.get? Layout.containerRefs id =
      ((records.add added).children? id).map fun children =>
        ContainerRef.toValue { id, children }) :
    after.Holds (records.add added) ∧ records.Change limit (records.add added) := by
  obtain ⟨hnodup, hfresh, hmachine⟩ := hbatch.machine_add hholds hcommit
  obtain ⟨henvironment, hestablished⟩ := transact_checkAlive hcommit hbatch.environment
  obtain ⟨hservers, hlength⟩ :=
    hholds.servers_add hconsistent hnodup hfresh hcommit hbatch.servers_eq
  constructor
  · refine ⟨?_, hmachine, ?_, hchildren, hservers⟩
    · rw [henvironment]
      exact hholds.environment
    · intro id machine hget
      change (added.find? (·.id = id) <|> records.machine? id) = some machine at hget
      cases hfind : added.find? (·.id = id) with
      | none =>
        rw [hfind] at hget
        exact hholds.machine_id id machine hget
      | some found =>
        rw [hfind] at hget
        obtain rfl : found = machine := Option.some.inj hget
        simpa using List.find?_some hfind
  · refine .add added ⟨?_, hnodup, hfresh, hplaced, ?_⟩
    · rw [← hholds.environment]
      exact hestablished
    · rcases hgrowth with hnone | hadmits
      · exact .inl hnone
      · rcases hlength with hnone | ⟨servers, hservers, hmachines, hvoting⟩
        · exact .inl hnone
        · exact .inr ⟨servers, hservers, hadmits.congr_length hmachines hvoting⟩

omit hbatch in
/-- Where lists of containers are only inserted, the hosts are among the new machines. -/
theorem children_of_onlyInsert (honly : Op.OnlyInsert Layout.containerRefs ops)
    (hinserted : ∀ id, Table.get? id (Op.inserted Layout.containerRefs ops) =
      if id ∈ added.map (·.id) then
        some (ContainerRef.toValue { id, children := Records.childrenAmong added id })
      else none)
    (houtside : ∀ id, id ∉ added.map (·.id) → Records.childrenAmong added id = []) (id : String) :
    after.get? Layout.containerRefs id =
      ((records.add added).children? id).map fun children =>
        ContainerRef.toValue { id, children } := by
  obtain ⟨-, happly⟩ := transact_eq_ok_iff.mp hcommit
  have honly' : Op.OnlyInsert Layout.containerRefs (Environment.checkAliveOp :: ops) := by
    intro op hop hcollection
    rcases List.mem_cons.mp hop with rfl | hop
    · exact absurd hcollection (by decide)
    · exact honly op hop hcollection
  have hinserts := inserts_of_onlyInsert happly honly'
  rw [Op.inserted_cons_of_ne (by decide)] at hinserts
  rw [hinserts.get?_eq, hinserted, hholds.children]
  change _ = Option.map _ (Option.map _ (if id ∈ added.map (·.id) then some [] else _))
  by_cases hmem : id ∈ added.map (·.id)
  · simp [hmem]
  · simp only [hmem, houtside id hmem, if_false, List.append_nil]
    cases records.children? id with
    | none => rfl
    | some children => rfl

end Batch

end ControlPlane
