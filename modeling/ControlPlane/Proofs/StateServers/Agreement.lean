import ControlPlane.Proofs.Records.Views
import ControlPlane.Proofs.Run.Alone
import ControlPlane.Proofs.Run.Records

/-!
# The lists of state servers and the machines

The lists of state servers and the records of the machines are different
documents, which no assertion compares.  They agree because both are only
ever written together: the ids that are added to a list are those of the new
machines that belong there.
-/

namespace ControlPlane

open Json

/-- A list has the ids of the machines that pass a test, each of them once. -/
structure Records.Enumerates (records : Records) (test : Machine → Bool) (ids : List String) :
    Prop where
  nodup : ids.Nodup
  mem_iff : ∀ id, id ∈ ids ↔
    ∃ machine, records.machine? id = some machine ∧ test machine = true

/-- The lists of state servers have the machines that are state servers, and those that vote. -/
structure Records.Agree (records : Records) : Prop where
  server : ∀ servers, records.servers? = some servers →
    records.Enumerates (·.isStateServer) servers.machineIds
  voter : ∀ servers, records.servers? = some servers →
    records.Enumerates (·.hasVote) servers.votingMachineIds

namespace Records

variable {limit : Nat} {records later : Records} {test : Machine → Bool} {ids : List String}

theorem enumerates_nil (h : ∀ id, records.machine? id = none) : records.Enumerates test [] where
  nodup := List.nodup_nil
  mem_iff id := by
    constructor
    · intro hmem
      cases hmem
    · rintro ⟨machine, hmachine, -⟩
      rw [h] at hmachine
      cases hmachine

/-- A list stays right when a machine is replaced by one that fares alike. -/
theorem Enumerates.replace {machine machine' : Machine} (h : records.Enumerates test ids)
    (hmachine : records.machine? machine.id = some machine) (hid : machine'.id = machine.id)
    (htest : test machine' = test machine) : (records.replace machine').Enumerates test ids where
  nodup := h.nodup
  mem_iff id := by
    rw [h.mem_iff]
    change _ ↔ ∃ found, (if id = machine'.id then some machine' else records.machine? id) =
      some found ∧ test found = true
    by_cases heq : id = machine.id
    · subst heq
      simp [hid, hmachine, htest]
    · simp [hid, heq]

/-- Adding to a list the new machines that belong there keeps it right. -/
theorem Enumerates.add {added : List Machine} (h : records.Enumerates test ids)
    (hadmissible : records.Admissible limit added) :
    (records.add added).Enumerates test (ids ++ (added.filter test).map (·.id)) where
  nodup := by
    have hsublist : ((added.filter test).map (·.id)).Sublist (added.map (·.id)) :=
      List.filter_sublist.map _
    apply h.nodup.append (hadmissible.nodup.sublist hsublist)
    intro id hold hnew
    obtain ⟨machine, hmachine, -⟩ := (h.mem_iff id).mp hold
    rw [hadmissible.fresh id (hsublist.subset hnew)] at hmachine
    cases hmachine
  mem_iff id := by
    rw [List.mem_append, h.mem_iff, List.mem_map]
    constructor
    · rintro (⟨machine, hmachine, htest⟩ | ⟨machine, hmem, hid⟩)
      · exact ⟨machine, hadmissible.machine?_add_iff.mpr (.inr hmachine), htest⟩
      · obtain ⟨hadded, htest⟩ := List.mem_filter.mp hmem
        exact ⟨machine, hadmissible.machine?_add_iff.mpr (.inl ⟨hadded, hid⟩), htest⟩
    · rintro ⟨machine, hmachine, htest⟩
      rcases hadmissible.machine?_add_iff.mp hmachine with ⟨hadded, hid⟩ | hold
      · exact .inr ⟨machine, List.mem_filter.mpr ⟨hadded, htest⟩, hid⟩
      · exact .inl ⟨machine, hold, htest⟩

theorem agree_empty : empty.Agree where
  server _ h := nomatch h
  voter _ h := nomatch h

/-- Every change of the records keeps the lists and the machines in agreement. -/
theorem Change.agree (h : records.Change limit later) (hconsistent : records.Consistent)
    (hagree : records.Agree) : later.Agree := by
  cases h with
  | same => exact hagree
  | establish hnot =>
    have hnone : ∀ id, records.machine? id = none := by
      intro id
      rw [← Option.not_isSome_iff_eq_none]
      intro hsome
      rw [hconsistent.established id hsome] at hnot
      cases hnot
    constructor
    · rintro servers ⟨⟩
      exact enumerates_nil hnone
    · rintro servers ⟨⟩
      exact enumerates_nil hnone
  | report machine kinds hmachine =>
    constructor
    · intro servers hservers
      exact (hagree.server servers hservers).replace hmachine rfl rfl
    · intro servers hservers
      exact (hagree.voter servers hservers).replace hmachine rfl rfl
  | add added hadmissible =>
    constructor
    · intro servers hservers
      obtain ⟨before, hbefore, rfl⟩ := Option.map_eq_some_iff.mp hservers
      exact (hagree.server before hbefore).add hadmissible
    · intro servers hservers
      obtain ⟨before, hbefore, rfl⟩ := Option.map_eq_some_iff.mp hservers
      exact (hagree.voter before hbefore).add hadmissible

end Records

/-- In every reachable world with an environment the lists of state servers exist.  They
have exactly the ids of the machines that manage the environment, and of those among them
that vote, and no id twice. -/
theorem servers_agree_of_reachable {world : World} (h : Reachable world)
    (hestablished : (world.store.get? Layout.environments Layout.environmentKey).isSome = true) :
    ∃ document record,
      world.store.get? Layout.stateServers Layout.environmentKey = some document ∧
      StateServersRecord.decode document = .ok record ∧
      record.servers.machineIds.Nodup ∧ record.servers.votingMachineIds.Nodup ∧
      (∀ id document, world.store.get? Layout.machines id = some document →
        ∃ machine, Machine.decode document = .ok machine) ∧
      (∀ id, id ∈ record.servers.machineIds ↔
        ∃ document machine, world.store.get? Layout.machines id = some document ∧
          Machine.decode document = .ok machine ∧ .manageEnviron ∈ machine.jobs) ∧
      (∀ id, id ∈ record.servers.votingMachineIds ↔
        ∃ document machine, world.store.get? Layout.machines id = some document ∧
          Machine.decode document = .ok machine ∧ .manageEnviron ∈ machine.jobs ∧
          machine.noVote = false) := by
  obtain ⟨records, hholds, hconsistent, hagree⟩ := h.records_induct
    (fun _ records => records.Agree) Records.agree_empty (fun _ hagree => hagree)
    fun hconsistent hagree hchange => hchange.agree hconsistent hagree
  rw [hholds.environment, ← hconsistent.lists] at hestablished
  obtain ⟨servers, hservers⟩ := Option.isSome_iff_exists.mp hestablished
  obtain ⟨hserverNodup, hserver⟩ := hagree.server servers hservers
  obtain ⟨hvoterNodup, hvoter⟩ := hagree.voter servers hservers
  refine ⟨_, { id := Layout.environmentKey, servers }, ?_, StateServersRecord.decode_toValue _,
    hserverNodup, hvoterNodup, ?_, ?_, ?_⟩
  · rw [hholds.servers, hservers]
    rfl
  · intro id document hget
    obtain ⟨machine, -, -, hdecode⟩ := hholds.exists_machine hget
    exact ⟨machine, hdecode⟩
  · intro id
    rw [hholds.exists_decoded_iff, hserver id]
    simp [Machine.isStateServer, Machine.hasJob]
  · intro id
    rw [hholds.exists_decoded_iff, hvoter id]
    simp [Machine.hasVote, Machine.isStateServer, Machine.hasJob]

/-- The settled world has an environment, and its lists are those of three machines. -/
theorem servers_agree_settled :
    (World.settled.store.get? Layout.environments Layout.environmentKey).isSome = true ∧
      ∃ record : StateServersRecord, World.settled.store.servers? = some record.servers ∧
        record.servers.machineIds = ["0", "1", "2"] ∧ record.servers.machineIds.Nodup ∧
        ∀ id, id ∈ record.servers.machineIds ↔
          ∃ document machine, World.settled.store.get? Layout.machines id = some document ∧
            Machine.decode document = .ok machine ∧ .manageEnviron ∈ machine.jobs := by
  have hestablished :
      (World.settled.store.get? Layout.environments Layout.environmentKey).isSome = true := by
    decide +kernel
  have hservers : World.settled.store.servers? = some ⟨["0", "1", "2"], ["0", "1", "2"]⟩ := by
    decide +kernel
  obtain ⟨document, record, hget, hdecode, hnodup, -, -, hserver, -⟩ :=
    servers_agree_of_reachable World.reachable_settled hestablished
  have hrecord : World.settled.store.servers? = some record.servers := by
    rw [Store.servers?, Store.record?, hget]
    change Option.map _ (StateServersRecord.decode document).toOption = _
    rw [hdecode]
    rfl
  refine ⟨hestablished, record, hrecord, ?_, hnodup, hserver⟩
  rw [hrecord] at hservers
  exact congrArg StateServers.machineIds (Option.some.inj hservers)

end ControlPlane
