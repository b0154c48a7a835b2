import ControlPlane.Proofs.Records.Views
import ControlPlane.Proofs.Run.Alone
import ControlPlane.Proofs.Run.Records

/-!
# The quorum of the state servers

The number of voters is odd as soon as there is one, and no greater than the
most generous controller allows.  Nothing in the store says so: it is kept
because voters are only added to lists of the length that was read, and
because no id that is added has been there before.
-/

namespace ControlPlane

open Json

/-- The number of voters is zero or odd, and within a limit. -/
structure StateServers.Quorate (servers : StateServers) (limit : Nat) : Prop where
  odd : servers.votingMachineIds.length = 0 ∨ servers.votingMachineIds.length % 2 = 1
  le : servers.votingMachineIds.length ≤ limit

namespace StateServers

variable {servers : StateServers} {machines : List Machine} {limit : Nat}

theorem length_votingMachineIds_adding (servers : StateServers) (machines : List Machine) :
    (servers.adding machines).votingMachineIds.length =
      servers.votingMachineIds.length + (machines.filter (·.hasVote)).length := by
  change (servers.votingMachineIds ++ _).length = _
  rw [List.length_append]
  simp [ofMachines]

/-- Machines that the lists admit leave a quorum behind. -/
theorem Admits.quorate_adding (h : servers.Admits limit machines) :
    (servers.adding machines).Quorate limit := by
  have hlength := length_votingMachineIds_adding servers machines
  cases h with
  | first hempty hids hlimit =>
    have hnone : servers.votingMachineIds.length = 0 := by
      simp only [isEmpty, Bool.and_eq_true, List.isEmpty_iff] at hempty
      rw [hempty.2]
      rfl
    have hone : (machines.filter (·.hasVote)).length ≤ 1 := by
      calc
        (machines.filter (·.hasVote)).length ≤ machines.length := List.length_filter_le _ _
        _ = (machines.map (·.id)).length := by rw [List.length_map]
        _ = 1 := by
          rw [hids]
          rfl
    constructor
    · omega
    · omega
  | raised hvote hodd hlimit =>
    have hall : machines.filter (·.hasVote) = machines := List.filter_eq_self.mpr hvote
    rw [hall] at hlength
    constructor
    · exact .inr (hlength ▸ hodd)
    · exact hlength ▸ hlimit

end StateServers

/-- Every change of the records keeps the quorum. -/
theorem Records.Change.quorate {limit : Nat} {records later : Records}
    (h : records.Change limit later)
    (hquorate : ∀ servers, records.servers? = some servers → servers.Quorate limit) :
    ∀ servers, later.servers? = some servers → servers.Quorate limit := by
  intro servers hservers
  cases h with
  | same => exact hquorate servers hservers
  | report machine kinds hmachine => exact hquorate servers hservers
  | establish hnot =>
    cases hservers
    exact ⟨.inl rfl, Nat.zero_le limit⟩
  | add added hadmissible =>
    obtain ⟨before, hbefore, rfl⟩ := Option.map_eq_some_iff.mp hservers
    rcases hadmissible.growth with hnone | ⟨current, hcurrent, hadmits⟩
    · rw [before.adding_eq_self hnone]
      exact hquorate before hbefore
    · obtain rfl : current = before := Option.some.inj (hcurrent.symm.trans hbefore)
      exact hadmits.quorate_adding

/-- The number of voting state servers is zero or odd in every reachable world, and at
most the greatest limit among its controllers. -/
theorem quorate_of_reachable {world : World} (h : Reachable world) {document : Value}
    (hdocument : world.store.get? Layout.stateServers Layout.environmentKey = some document) :
    ∃ record, StateServersRecord.decode document = .ok record ∧
      (record.servers.votingMachineIds.length = 0 ∨
        record.servers.votingMachineIds.length % 2 = 1) ∧
      record.servers.votingMachineIds.length ≤ world.peerLimit := by
  obtain ⟨records, hholds, -, hquorate⟩ := h.records_induct
    (fun limit records => ∀ servers, records.servers? = some servers → servers.Quorate limit)
    (fun _ hnone => nomatch hnone)
    (fun hle hquorate servers hservers =>
      ⟨(hquorate servers hservers).odd, Nat.le_trans (hquorate servers hservers).le hle⟩)
    fun _ hquorate hchange => hchange.quorate hquorate
  rw [hholds.servers] at hdocument
  obtain ⟨servers, hservers, rfl⟩ := Option.map_eq_some_iff.mp hdocument
  exact ⟨_, StateServersRecord.decode_toValue _, (hquorate servers hservers).odd,
    (hquorate servers hservers).le⟩

/-- Three state servers have been added to the settled world, and each of them votes. -/
theorem quorate_settled :
    World.settled.store.servers? = some ⟨["0", "1", "2"], ["0", "1", "2"]⟩ ∧
      ∃ document record,
        World.settled.store.get? Layout.stateServers Layout.environmentKey = some document ∧
        StateServersRecord.decode document = .ok record ∧
        (record.servers.votingMachineIds.length = 0 ∨
          record.servers.votingMachineIds.length % 2 = 1) ∧
        record.servers.votingMachineIds.length ≤ World.settled.peerLimit := by
  have hsome : (World.settled.store.get? Layout.stateServers Layout.environmentKey).isSome =
      true := by decide +kernel
  obtain ⟨document, hdocument⟩ := Option.isSome_iff_exists.mp hsome
  obtain ⟨record, hquorate⟩ := quorate_of_reachable World.reachable_settled hdocument
  exact ⟨by decide +kernel, document, record, hdocument, hquorate⟩

end ControlPlane
