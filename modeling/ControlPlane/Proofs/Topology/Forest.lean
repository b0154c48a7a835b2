import ControlPlane.Proofs.Records.Views
import ControlPlane.Proofs.Run.Alone
import ControlPlane.Proofs.Run.Records

/-!
# Machines form a forest

The id of a container names its host, and the list of the host names the
container.  The two are written by different operations in different
documents, but in one transaction, and neither is ever changed afterwards.  So
the lists describe exactly the forest that the ids do.
-/

namespace ControlPlane

open Json

/-- The lists of containers describe the forest of the ids. -/
structure Records.Forest (records : Records) : Prop where
  paired : ∀ id, (records.children? id).isSome = (records.machine? id).isSome
  placed : ∀ id machine, records.machine? id = some machine →
    machine.Placed fun host => (records.children? host).isSome = true
  child : ∀ host children id, records.children? host = some children → id ∈ children →
    MachineId.parent? id = some host
  once : ∀ id host, (records.machine? id).isSome = true → MachineId.parent? id = some host →
    ∃ children, records.children? host = some children ∧ children.count id = 1

theorem Machine.Placed.mono {machine : Machine} {isHost isHost' : String → Prop}
    (h : machine.Placed isHost) (himp : ∀ host, isHost host → isHost' host) :
    machine.Placed isHost' := by
  cases h with
  | root number hid htype => exact .root number hid htype
  | container parent kind number hid htype hkind hhost =>
    exact .container parent kind number hid htype hkind (himp parent hhost)

/-- A machine that is in its place and has a parent is on a host. -/
theorem Machine.Placed.isHost_of_parent? {machine : Machine} {isHost : String → Prop}
    {host : String} (h : machine.Placed isHost)
    (hparent : MachineId.parent? machine.id = some host) : isHost host := by
  cases h with
  | root number hid htype =>
    rw [hid, MachineId.parent?_root] at hparent
    cases hparent
  | container parent kind number hid htype hkind hhost =>
    rw [hid, MachineId.parent?_container] at hparent
    exact Option.some.inj hparent ▸ hhost

namespace Records

variable {limit : Nat} {records later : Records} {added : List Machine}

theorem forest_empty : empty.Forest where
  paired _ := rfl
  placed _ _ h := nomatch h
  child _ _ _ h := nomatch h
  once _ _ h := nomatch h

theorem isSome_children?_add (id : String) :
    ((records.add added).children? id).isSome = true ↔
      id ∈ added.map (·.id) ∨ (records.children? id).isSome = true := by
  change (Option.map _ (if id ∈ added.map (·.id) then some [] else _)).isSome = true ↔ _
  rw [Option.isSome_map]
  by_cases hid : id ∈ added.map (·.id)
  · simp [hid]
  · rw [if_neg hid]
    exact ⟨.inr, fun h => h.resolve_left hid⟩

/-- A new container is listed once by its host. -/
theorem count_childrenAmong {machine : Machine} {host : String}
    (hnodup : (added.map (·.id)).Nodup) (hmem : machine ∈ added)
    (hparent : MachineId.parent? machine.id = some host) :
    (childrenAmong added host).count machine.id = 1 := by
  apply List.count_eq_one_of_mem
  · exact hnodup.sublist (List.filter_sublist.map _)
  · exact mem_childrenAmong.mpr ⟨machine, hmem, hparent, rfl⟩

theorem Forest.add (h : records.Forest) (hconsistent : records.Consistent)
    (hadmissible : records.Admissible limit added) : (records.add added).Forest where
  paired id := by
    rw [Bool.eq_iff_iff, isSome_children?_add, hadmissible.isSome_machine?_add_iff, h.paired]
  placed id machine hmachine := by
    rcases hadmissible.machine?_add_iff.mp hmachine with ⟨hmem, -⟩ | hold
    · exact hadmissible.placed machine hmem
    · exact (h.placed id machine hold).mono fun host hhost =>
        (isSome_children?_add host).mpr (.inr hhost)
  child host children id hchildren hid := by
    rcases mem_children_add hchildren hid with ⟨before, hbefore, hid⟩ | hid
    · exact h.child host before id hbefore hid
    · obtain ⟨machine, -, hparent, rfl⟩ := mem_childrenAmong.mp hid
      exact hparent
  once id host hid hparent := by
    rcases (hadmissible.isSome_machine?_add_iff id).mp hid with hnew | hold
    · obtain ⟨machine, hmem, rfl⟩ := List.mem_map.mp hnew
      have hhost := (hadmissible.placed machine hmem).isHost_of_parent? hparent
      obtain ⟨children, hchildren⟩ := Option.isSome_iff_exists.mp hhost
      refine ⟨children, hchildren, ?_⟩
      obtain ⟨base, hbase, rfl⟩ := children?_add_eq_some hchildren
      have hnot : machine.id ∉ base := by
        intro hlisted
        rcases hbase with rfl | hbase
        · cases hlisted
        · have hsome := hconsistent.child host base machine.id hbase hlisted
          rw [hadmissible.fresh machine.id hnew] at hsome
          cases hsome
      rw [List.count_append, List.count_eq_zero.mpr hnot,
        count_childrenAmong hadmissible.nodup hmem hparent]
    · obtain ⟨before, hbefore, hcount⟩ := h.once id host hold hparent
      have hhost : host ∉ added.map (·.id) := by
        intro hmem
        have hsome := h.paired host
        rw [hbefore, hadmissible.fresh host hmem] at hsome
        cases hsome
      have hnot : id ∉ childrenAmong added host := by
        intro hlisted
        obtain ⟨machine, hmem, -, rfl⟩ := mem_childrenAmong.mp hlisted
        rw [hadmissible.fresh machine.id (List.mem_map_of_mem hmem)] at hold
        cases hold
      refine ⟨before ++ childrenAmong added host, ?_, ?_⟩
      · rw [children?_add_of_notMem hhost, hbefore]
        rfl
      · rw [List.count_append, hcount, List.count_eq_zero.mpr hnot]

theorem Forest.replace {machine machine' : Machine} (h : records.Forest)
    (hmachine : records.machine? machine.id = some machine) (hid : machine'.id = machine.id)
    (htype : machine'.containerType = machine.containerType) :
    (records.replace machine').Forest := by
  have hsome : ∀ id, ((records.replace machine').machine? id).isSome =
      (records.machine? id).isSome := by
    intro id
    change (if id = machine'.id then _ else _ : Option Machine).isSome = _
    by_cases heq : id = machine.id
    · rw [hid, if_pos heq, heq, hmachine]
      rfl
    · rw [hid, if_neg heq]
  refine ⟨?_, ?_, h.child, ?_⟩
  · exact fun id => (h.paired id).trans (hsome id).symm
  · intro id found hfound
    change (if id = machine'.id then some machine' else _) = some found at hfound
    by_cases heq : id = machine.id
    · rw [hid, if_pos heq] at hfound
      obtain rfl : machine' = found := Option.some.inj hfound
      cases h.placed machine.id machine hmachine with
      | root number hroot hnone => exact .root number (hid.trans hroot) (htype.trans hnone)
      | container parent kind number hcontainer hsome hkind hhost =>
        exact .container parent kind number (hid.trans hcontainer) (htype.trans hsome) hkind hhost
    · rw [hid, if_neg heq] at hfound
      exact h.placed id found hfound
  · intro id host hmem
    rw [hsome] at hmem
    exact h.once id host hmem

/-- Every change of the records keeps the forest. -/
theorem Change.forest (h : records.Change limit later) (hconsistent : records.Consistent)
    (hforest : records.Forest) : later.Forest := by
  cases h with
  | same => exact hforest
  | establish hnot => exact ⟨hforest.paired, hforest.placed, hforest.child, hforest.once⟩
  | report machine kinds hmachine => exact hforest.replace hmachine rfl rfl
  | add added hadmissible => exact hforest.add hconsistent hadmissible

end Records

namespace Store

/-- Following the hosts of a machine ends at a root machine that exists. -/
inductive Rooted (store : Store) : String → Prop where
  | root {id : String} {machine : Machine} (hmachine : store.machine? id = some machine)
      (htype : machine.containerType = none) (hparent : machine.parent? = none) :
      Rooted store id
  | inside {id host : String} {machine : Machine} (hmachine : store.machine? id = some machine)
      (hparent : machine.parent? = some host) (hhost : Rooted store host) : Rooted store id

/-- The machine is a root machine, which no list of containers names. -/
def HasRoot (store : Store) (machine : Machine) : Prop :=
  (∃ number, machine.id = MachineId.root number) ∧ '/' ∉ machine.id.toList ∧
    machine.containerType = none ∧
    ∀ other children, store.children? other = some children → machine.id ∉ children

/-- The machine is a container, which its host lists once and no other machine does. -/
def HasContainer (store : Store) (machine : Machine) : Prop :=
  ∃ host kind number children, machine.id = MachineId.container host kind number ∧
    machine.containerType = some kind ∧ (kind = .lxc ∨ kind = .kvm) ∧
    machine.parent? = some host ∧ (store.machine? host).isSome = true ∧
    store.children? host = some children ∧ children.count machine.id = 1 ∧
    ∀ other children, other ≠ host → store.children? other = some children →
      machine.id ∉ children

/-- The machines of a store form a forest that the lists of containers describe. -/
structure IsForest (store : Store) : Prop where
  machine_key : ∀ id document, store.get? Layout.machines id = some document →
    ∃ machine, Machine.decode document = .ok machine ∧ machine.id = id
  children_key : ∀ id document, store.get? Layout.containerRefs id = some document →
    ∃ ref, ContainerRef.decode document = .ok ref ∧ ref.id = id
  placed : ∀ id machine, store.machine? id = some machine →
    store.HasRoot machine ∨ store.HasContainer machine
  listed : ∀ host children id, store.children? host = some children → id ∈ children →
    ∃ machine, store.machine? id = some machine ∧ machine.parent? = some host
  rooted : ∀ id, (store.machine? id).isSome = true → store.Rooted id

variable {store : Store} {records : Records}

theorem Holds.hasRoot_or_hasContainer (h : store.Holds records) (hforest : records.Forest)
    {machine : Machine} (hmachine : records.machine? machine.id = some machine) :
    store.HasRoot machine ∨ store.HasContainer machine := by
  have hlisted : ∀ other children, store.children? other = some children →
      machine.id ∈ children → MachineId.parent? machine.id = some other := by
    intro other children hchildren
    rw [h.children?_eq] at hchildren
    exact hforest.child other children machine.id hchildren
  cases hforest.placed machine.id machine hmachine with
  | root number hid htype =>
    have hparent : MachineId.parent? machine.id = none := by rw [hid, MachineId.parent?_root]
    refine .inl ⟨⟨number, hid⟩, ?_, htype, ?_⟩
    · rw [hid]
      exact MachineId.slash_notMem_root number
    · intro other children hchildren hmem
      rw [hlisted other children hchildren hmem] at hparent
      cases hparent
  | container host kind number hid htype hkind hhost =>
    have hparent : MachineId.parent? machine.id = some host := by
      rw [hid, MachineId.parent?_container]
    obtain ⟨children, hchildren, hcount⟩ :=
      hforest.once machine.id host (by rw [hmachine]; rfl) hparent
    refine .inr ⟨host, kind, number, children, hid, htype, ?_, hparent, ?_, ?_, hcount, ?_⟩
    · cases kind with
      | noContainer => exact absurd rfl hkind
      | lxc => exact .inl rfl
      | kvm => exact .inr rfl
    · rw [h.machine?_eq, ← hforest.paired]
      exact hhost
    · rw [h.children?_eq, hchildren]
    · intro other children hne hchildren hmem
      rw [hlisted other children hchildren hmem] at hparent
      exact hne (Option.some.inj hparent)

/-- The hosts of a machine have ever shorter ids, so they come to an end. -/
theorem Holds.rooted (h : store.Holds records) (hforest : records.Forest) {id : String}
    {machine : Machine} (hmachine : records.machine? id = some machine) : store.Rooted id := by
  induction hlength : id.length using Nat.strong_induction_on generalizing id machine with
  | _ length ih =>
    have hget : store.machine? id = some machine := (h.machine?_eq id).trans hmachine
    obtain rfl := h.machine_id id machine hmachine
    rcases h.hasRoot_or_hasContainer hforest hmachine with
      ⟨⟨number, hid⟩, -, htype, -⟩ | ⟨host, kind, number, -, hid, -, -, hparent, hhost, -⟩
    · refine .root hget htype ?_
      rw [Machine.parent?, hid, MachineId.parent?_root]
    · rw [h.machine?_eq] at hhost
      obtain ⟨hostMachine, hhost⟩ := Option.isSome_iff_exists.mp hhost
      have hshorter : host.length < length := by
        rw [← hlength, hid]
        exact MachineId.length_lt_length_container host kind number
      exact .inside hget hparent (ih host.length hshorter hhost rfl)

/-- The lists of a store that holds a forest of records describe it. -/
theorem Holds.isForest (h : store.Holds records) (hconsistent : records.Consistent)
    (hforest : records.Forest) : store.IsForest where
  machine_key id document hget := by
    obtain ⟨machine, -, hid, hdecode⟩ := h.exists_machine hget
    exact ⟨machine, hdecode, hid⟩
  children_key id document hget := by
    obtain ⟨children, -, hdecode⟩ := h.exists_children hget
    exact ⟨{ id, children }, hdecode, rfl⟩
  placed id machine hmachine := by
    rw [h.machine?_eq] at hmachine
    obtain rfl := h.machine_id id machine hmachine
    exact h.hasRoot_or_hasContainer hforest hmachine
  listed host children id hchildren hmem := by
    rw [h.children?_eq] at hchildren
    obtain ⟨machine, hmachine⟩ :=
      Option.isSome_iff_exists.mp (hconsistent.child host children id hchildren hmem)
    obtain rfl := h.machine_id id machine hmachine
    exact ⟨machine, (h.machine?_eq _).trans hmachine,
      hforest.child host children machine.id hchildren hmem⟩
  rooted id hsome := by
    rw [h.machine?_eq] at hsome
    obtain ⟨machine, hmachine⟩ := Option.isSome_iff_exists.mp hsome
    exact h.rooted hforest hmachine

end Store

theorem Reachable.forest {world : World} (h : Reachable world) :
    ∃ records, world.store.Holds records ∧ records.Forest := by
  obtain ⟨records, hholds, -, hforest⟩ := h.records_induct
    (fun _ records => records.Forest) Records.forest_empty (fun _ hforest => hforest)
    fun hconsistent hforest hchange => hchange.forest hconsistent hforest
  exact ⟨records, hholds, hforest⟩

/-- In every reachable world just the machines have lists of containers. -/
theorem Reachable.isSome_containerRefs {world : World} (h : Reachable world) (id : String) :
    (world.store.get? Layout.containerRefs id).isSome =
      (world.store.get? Layout.machines id).isSome := by
  obtain ⟨records, hholds, hforest⟩ := h.forest
  rw [hholds.children, hholds.machine, Option.isSome_map, Option.isSome_map]
  exact hforest.paired id

/-- In every reachable world the machines form a forest, which the lists of containers
describe exactly. -/
theorem isForest_of_reachable {world : World} (h : Reachable world) : world.store.IsForest := by
  obtain ⟨records, hholds, hconsistent, hforest⟩ := h.records_induct
    (fun _ records => records.Forest) Records.forest_empty (fun _ hforest => hforest)
    fun hconsistent hforest hchange => hchange.forest hconsistent hforest
  exact hholds.isForest hconsistent hforest

/-- In the settled world a container is on the first of the state servers. -/
theorem isForest_settled :
    World.settled.store.children? "0" = some ["0/lxc/0"] ∧
      World.settled.store.Rooted "0/lxc/0" ∧
      ∃ machine, World.settled.store.machine? "0/lxc/0" = some machine ∧
        machine.parent? = some "0" := by
  have hchildren : World.settled.store.children? "0" = some ["0/lxc/0"] := by decide +kernel
  have hsome : (World.settled.store.machine? "0/lxc/0").isSome = true := by decide +kernel
  have hforest := isForest_of_reachable World.reachable_settled
  exact ⟨hchildren, hforest.rooted _ hsome, hforest.listed _ _ _ hchildren List.mem_cons_self⟩

end ControlPlane
