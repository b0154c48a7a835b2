import ControlPlane.Proofs.Run.Submission
import ControlPlane.Proofs.StateServers.Adding

/-!
# The records about machines

Of a store only some records matter for where machines are and which of them
are state servers.  `Records` has these, and `Records.Change` says how they
change as a whole: an environment is established, a machine reports what it
supports, or machines are added.
-/

namespace ControlPlane

/-- A machine that has reported what it supports. -/
def Machine.reporting (machine : Machine) (kinds : List ContainerType) : Machine :=
  { machine with
    supportedContainersKnown := true
    supportedContainers := ContainerType.ascending kinds }

/-- A machine is in its place: it is a root machine, or a container on a host of its own. -/
inductive Machine.Placed (machine : Machine) (isHost : String → Prop) : Prop where
  | root (number : Nat) (hid : machine.id = MachineId.root number)
      (htype : machine.containerType = none)
  | container (parent : String) (kind : ContainerType) (number : Nat)
      (hid : machine.id = MachineId.container parent kind number)
      (htype : machine.containerType = some kind) (hkind : kind ≠ .noContainer)
      (hhost : isHost parent)

/-- The records about machines. -/
structure Records where
  /-- Whether there is an environment. -/
  established : Bool
  machine? : String → Option Machine
  children? : String → Option (List String)
  servers? : Option StateServers

namespace Records

/-- The records of the empty store. -/
def empty : Records where
  established := false
  machine? _ := none
  children? _ := none
  servers? := none

/-- The records of an environment without machines. -/
def establish (records : Records) : Records :=
  { records with established := true, servers? := some {} }

/-- The records after a machine has been put in place of an older record of it. -/
def replace (records : Records) (machine : Machine) : Records :=
  { records with
    machine? := fun id => if id = machine.id then some machine else records.machine? id }

/-- The containers that are added to one host. -/
def childrenAmong (added : List Machine) (host : String) : List String :=
  (added.filter (·.parent? = some host)).map (·.id)

/-- The records after machines have been added.  Each new machine has a list of
its containers, and each new container is at the end of the list of its host. -/
def add (records : Records) (added : List Machine) : Records where
  established := records.established
  machine? id := added.find? (·.id = id) <|> records.machine? id
  children? id :=
    (if id ∈ added.map (·.id) then some [] else records.children? id).map
      (· ++ childrenAmong added id)
  servers? := records.servers?.map (·.adding added)

/-- Machines that can be added. -/
structure Admissible (limit : Nat) (records : Records) (added : List Machine) : Prop where
  established : records.established = true
  nodup : (added.map (·.id)).Nodup
  fresh : ∀ id ∈ added.map (·.id), records.machine? id = none
  placed : ∀ machine ∈ added,
    machine.Placed fun host => ((records.add added).children? host).isSome = true
  growth : (∀ machine ∈ added, machine.isStateServer = false) ∨
    ∃ servers, records.servers? = some servers ∧ servers.Admits limit added

/-- How the records change in one transaction. -/
inductive Change (limit : Nat) (records : Records) : Records → Prop where
  | establish (h : records.established = false) : Change limit records records.establish
  | same : Change limit records records
  | report (machine : Machine) (kinds : List ContainerType)
      (h : records.machine? machine.id = some machine) :
      Change limit records (records.replace (machine.reporting kinds))
  | add (added : List Machine) (h : records.Admissible limit added) :
      Change limit records (records.add added)

/-- There are machines only in an environment, which has lists of state servers; and
whatever is listed as a container or as a state server is a machine. -/
structure Consistent (records : Records) : Prop where
  established : ∀ id, (records.machine? id).isSome = true → records.established = true
  lists : records.servers?.isSome = records.established
  child : ∀ host children id, records.children? host = some children → id ∈ children →
    (records.machine? id).isSome = true
  server : ∀ servers id, records.servers? = some servers →
    id ∈ servers.machineIds ∨ id ∈ servers.votingMachineIds → (records.machine? id).isSome = true

variable {limit : Nat} {records later : Records} {added : List Machine}

theorem mem_childrenAmong {host id : String} :
    id ∈ childrenAmong added host ↔
      ∃ machine ∈ added, machine.parent? = some host ∧ machine.id = id := by
  simp [childrenAmong, and_assoc]

theorem machine?_add_of_notMem {id : String} (h : id ∉ added.map (·.id)) :
    (records.add added).machine? id = records.machine? id := by
  have hnone : added.find? (·.id = id) = none := by
    rw [List.find?_eq_none]
    intro machine hmachine heq
    exact h (List.mem_map.mpr ⟨machine, hmachine, by simpa using heq⟩)
  change (added.find? (·.id = id) <|> _) = _
  rw [hnone]
  rfl

theorem machine?_add_of_mem (hnodup : (added.map (·.id)).Nodup) {machine : Machine}
    (hmem : machine ∈ added) : (records.add added).machine? machine.id = some machine := by
  have hfind : added.find? (·.id = machine.id) = some machine := by
    induction added with
    | nil => cases hmem
    | cons first rest ih =>
      rw [List.map_cons, List.nodup_cons] at hnodup
      rcases List.mem_cons.mp hmem with rfl | hrest
      · rw [List.find?_cons_of_pos (by simp)]
      · have hne : first.id ≠ machine.id := fun heq =>
          hnodup.1 (heq ▸ List.mem_map_of_mem hrest)
        rw [List.find?_cons_of_neg (by simpa using hne)]
        exact ih hnodup.2 hrest
  change (added.find? (·.id = machine.id) <|> _) = _
  rw [hfind]
  rfl

namespace Admissible

/-- After an addition there are the new machines and the old ones. -/
theorem machine?_add_iff (h : records.Admissible limit added) {id : String} {machine : Machine} :
    (records.add added).machine? id = some machine ↔
      machine ∈ added ∧ machine.id = id ∨ records.machine? id = some machine := by
  by_cases hid : id ∈ added.map (·.id)
  · obtain ⟨new, hnew, rfl⟩ := List.mem_map.mp hid
    rw [machine?_add_of_mem h.nodup hnew, h.fresh new.id hid]
    constructor
    · rintro ⟨⟩
      exact .inl ⟨hnew, rfl⟩
    · rintro (⟨hmem, heq⟩ | hnone)
      · exact congrArg some (List.inj_on_of_nodup_map h.nodup hnew hmem heq.symm)
      · cases hnone
  · rw [machine?_add_of_notMem hid]
    constructor
    · exact .inr
    · rintro (⟨hmem, rfl⟩ | hold)
      · exact absurd (List.mem_map_of_mem hmem) hid
      · exact hold

theorem isSome_machine?_add_iff (h : records.Admissible limit added) (id : String) :
    ((records.add added).machine? id).isSome = true ↔
      id ∈ added.map (·.id) ∨ (records.machine? id).isSome = true := by
  constructor
  · intro hsome
    obtain ⟨machine, hmachine⟩ := Option.isSome_iff_exists.mp hsome
    rcases h.machine?_add_iff.mp hmachine with ⟨hmem, rfl⟩ | hold
    · exact .inl (List.mem_map_of_mem hmem)
    · exact .inr (by rw [hold]; rfl)
  · rintro (hid | hid)
    · obtain ⟨machine, hmem, rfl⟩ := List.mem_map.mp hid
      rw [machine?_add_of_mem h.nodup hmem]
      rfl
    · obtain ⟨machine, hmachine⟩ := Option.isSome_iff_exists.mp hid
      rw [h.machine?_add_iff.mpr (.inr hmachine)]
      rfl

end Admissible

theorem Admissible.mono {limit' : Nat} (h : records.Admissible limit added)
    (hle : limit ≤ limit') : records.Admissible limit' added where
  established := h.established
  nodup := h.nodup
  fresh := h.fresh
  placed := h.placed
  growth := h.growth.imp_right fun ⟨servers, hservers, hadmits⟩ =>
    ⟨servers, hservers, hadmits.mono hle⟩

theorem Change.mono {limit' : Nat} (h : records.Change limit later) (hle : limit ≤ limit') :
    records.Change limit' later := by
  cases h with
  | same => exact .same
  | establish hnot => exact .establish hnot
  | report machine kinds hmachine => exact .report machine kinds hmachine
  | add added hadmissible => exact .add added (hadmissible.mono hle)

theorem children?_add_of_notMem {host : String} (h : host ∉ added.map (·.id)) :
    (records.add added).children? host =
      (records.children? host).map (· ++ childrenAmong added host) := by
  change Option.map _ (if host ∈ added.map (·.id) then some [] else _) = _
  rw [if_neg h]

/-- A list after an addition is one from before, or an empty one, with new containers behind. -/
theorem children?_add_eq_some {host : String} {children : List String}
    (h : (records.add added).children? host = some children) :
    ∃ base, (base = [] ∨ records.children? host = some base) ∧
      children = base ++ childrenAmong added host := by
  obtain ⟨base, hbase, rfl⟩ := Option.map_eq_some_iff.mp h
  refine ⟨base, ?_, rfl⟩
  by_cases hhost : host ∈ added.map (·.id)
  · rw [if_pos hhost] at hbase
    exact .inl (Option.some.inj hbase).symm
  · rw [if_neg hhost] at hbase
    exact .inr hbase

theorem mem_children_add {host id : String} {children : List String}
    (hchildren : (records.add added).children? host = some children) (hid : id ∈ children) :
    (∃ before, records.children? host = some before ∧ id ∈ before) ∨
      id ∈ childrenAmong added host := by
  obtain ⟨base, hbase, rfl⟩ := children?_add_eq_some hchildren
  rcases List.mem_append.mp hid with hid | hid
  · rcases hbase with rfl | hbase
    · cases hid
    · exact .inl ⟨base, hbase, hid⟩
  · exact .inr hid

theorem consistent_empty : empty.Consistent where
  established _ h := nomatch h
  lists := rfl
  child _ _ _ h := nomatch h
  server _ _ h := nomatch h

theorem Change.consistent (h : records.Change limit later) (hconsistent : records.Consistent) :
    later.Consistent := by
  cases h with
  | same => exact hconsistent
  | establish _ =>
    refine ⟨fun _ _ => rfl, rfl, hconsistent.child, ?_⟩
    rintro servers id ⟨⟩ hid
    simp at hid
  | report machine kinds hmachine =>
    have hkept : ∀ id, (records.machine? id).isSome = true →
        ((records.replace (machine.reporting kinds)).machine? id).isSome = true := by
      intro id hid
      simp only [replace]
      split
      · rfl
      · exact hid
    refine ⟨?_, hconsistent.lists, ?_, ?_⟩
    · intro id hid
      exact hconsistent.established machine.id (by rw [hmachine]; rfl)
    · intro host children id hchildren hid
      exact hkept id (hconsistent.child host children id hchildren hid)
    · intro servers id hservers hid
      exact hkept id (hconsistent.server servers id hservers hid)
  | add added hadmissible =>
    refine ⟨fun _ _ => hadmissible.established, ?_, ?_, ?_⟩
    · change (Option.map _ records.servers?).isSome = _
      rw [Option.isSome_map]
      exact hconsistent.lists
    · intro host children id hchildren hid
      rcases mem_children_add hchildren hid with ⟨before, hbefore, hid⟩ | hid
      · exact (hadmissible.isSome_machine?_add_iff id).mpr
          (.inr (hconsistent.child host before id hbefore hid))
      · obtain ⟨machine, hmem, -, rfl⟩ := mem_childrenAmong.mp hid
        exact (hadmissible.isSome_machine?_add_iff machine.id).mpr (.inl (List.mem_map_of_mem hmem))
    · intro servers id hservers hid
      obtain ⟨before, hbefore, rfl⟩ := Option.map_eq_some_iff.mp hservers
      apply (hadmissible.isSome_machine?_add_iff id).mpr
      rcases hid with hid | hid
      · rcases List.mem_append.mp hid with hid | hid
        · exact .inr (hconsistent.server before id hbefore (.inl hid))
        · exact .inl ((StateServers.machineIds_sublist added).subset hid)
      · rcases List.mem_append.mp hid with hid | hid
        · exact .inr (hconsistent.server before id hbefore (.inr hid))
        · exact .inl ((StateServers.votingMachineIds_sublist added).subset hid)

end Records

end ControlPlane
