import ControlPlane.Proofs.Records.Views
import ControlPlane.Proofs.Run.Records

/-!
# The lists of state servers only grow

Whatever happens to the lists of state servers, what was in them stays there
in its place.  So lists that were read at some time are the beginning of the
present ones, and they are the present ones as soon as the lengths agree.
-/

namespace ControlPlane

open Json Store

/-- One pair of lists is the beginning of another. -/
structure StateServers.Precedes (servers servers' : StateServers) : Prop where
  machineIds : servers.machineIds <+: servers'.machineIds
  votingMachineIds : servers.votingMachineIds <+: servers'.votingMachineIds

namespace StateServers

variable {servers middle servers' : StateServers}

theorem precedes_refl (servers : StateServers) : servers.Precedes servers :=
  ⟨List.prefix_refl _, List.prefix_refl _⟩

theorem Precedes.trans (h : servers.Precedes middle) (h' : middle.Precedes servers') :
    servers.Precedes servers' :=
  ⟨h.machineIds.trans h'.machineIds, h.votingMachineIds.trans h'.votingMachineIds⟩

theorem precedes_adding (servers : StateServers) (machines : List Machine) :
    servers.Precedes (servers.adding machines) :=
  ⟨List.prefix_append _ _, List.prefix_append _ _⟩

/-- Nothing has changed in lists that still have the same lengths. -/
theorem Precedes.eq_of_length (h : servers.Precedes servers')
    (hmachines : servers'.machineIds.length = servers.machineIds.length)
    (hvoting : servers'.votingMachineIds.length = servers.votingMachineIds.length) :
    servers = servers' := by
  apply eq_of_lists_eq
  · exact h.machineIds.eq_of_length hmachines.symm
  · exact h.votingMachineIds.eq_of_length hvoting.symm

end StateServers

variable {world later : World} {event : Event}

theorem Records.Change.precedes {limit : Nat} {records later : Records}
    (h : records.Change limit later) (hconsistent : records.Consistent) {servers : StateServers}
    (hservers : records.servers? = some servers) :
    ∃ servers', later.servers? = some servers' ∧ servers.Precedes servers' := by
  cases h with
  | same => exact ⟨servers, hservers, servers.precedes_refl⟩
  | report machine kinds hmachine => exact ⟨servers, hservers, servers.precedes_refl⟩
  | establish hnot =>
    have hlists := hconsistent.lists
    rw [hservers, hnot] at hlists
    cases hlists
  | add added hadmissible =>
    refine ⟨servers.adding added, ?_, servers.precedes_adding added⟩
    change records.servers?.map _ = _
    rw [hservers]
    rfl

theorem Reachable.holds (h : Reachable world) :
    ∃ records, world.store.Holds records ∧ records.Consistent := by
  obtain ⟨records, hholds, hconsistent, -⟩ := h.records_induct (fun _ _ => True) trivial
    (fun _ _ => trivial) fun _ _ _ => trivial
  exact ⟨records, hholds, hconsistent⟩

/-- In a step the lists of state servers grow at most. -/
theorem Step.servers_precede (hstep : Step world event later) (h : Reachable world)
    {servers : StateServers} (hservers : world.store.servers? = some servers) :
    ∃ servers', later.store.servers? = some servers' ∧ servers.Precedes servers' := by
  obtain ⟨records, hholds, hconsistent⟩ := h.holds
  rw [hholds.servers?_eq] at hservers
  obtain ⟨records', hafter, hchange⟩ := hstep.change h.conducted hholds hconsistent
  rw [hafter.servers?_eq]
  exact hchange.precedes hconsistent hservers

/-- In a run the lists of state servers grow at most. -/
theorem Run.servers_precede {events : List Event} (hrun : Run world events later)
    (h : Reachable world) {servers : StateServers}
    (hservers : world.store.servers? = some servers) :
    ∃ servers', later.store.servers? = some servers' ∧ servers.Precedes servers' := by
  induction hrun with
  | nil => exact ⟨servers, hservers, servers.precedes_refl⟩
  | snoc hbefore hlast ih =>
    obtain ⟨between, hbetween, hprecedes⟩ := ih
    obtain ⟨servers', hservers', hgrown⟩ := hlast.servers_precede (h.run hbefore) hbetween
    exact ⟨servers', hservers', hprecedes.trans hgrown⟩

/-- What is read now is what there is. -/
theorem Answers.servers?_of_found {store after : Store} {call : Call} {answer : call.Answer}
    (h : Answers store call answer after) {past : History} {read : StateServers}
    (hread : read.WereRead (past ++ [⟨call, answer⟩])) :
    read.WereRead past ∨ after.servers? = some read := by
  obtain ⟨record, ⟨document, hmem, hdecode⟩, rfl⟩ := hread
  rcases List.mem_append.mp hmem with hmem | hmem
  · exact .inl ⟨record, ⟨document, hmem, hdecode⟩, rfl⟩
  · right
    cases List.mem_singleton.mp hmem
    obtain ⟨hdocument, rfl⟩ := h.get?_eq
    rw [Store.servers?, Store.record?, hdocument]
    change Option.map _ (StateServersRecord.decode document).toOption = _
    rw [hdecode]
    rfl

/-- Whatever lists a thread has read, they are the beginning of the present ones. -/
theorem Reachable.read_precedes (h : Reachable world) :
    ∀ thread ∈ world.threads, ∀ read : StateServers, read.WereRead thread.past →
      ∃ servers, world.store.servers? = some servers ∧ read.Precedes servers := by
  apply h.induct
  · intro thread hthread
    cases hthread
  · intro world event later hreachable hworld hstep thread hthread read hread
    have hgrow : ∀ thread ∈ world.threads, read.WereRead thread.past →
        ∃ servers, later.store.servers? = some servers ∧ read.Precedes servers := by
      intro thread hthread hread
      obtain ⟨between, hbetween, hprecedes⟩ := hworld thread hthread read hread
      obtain ⟨servers, hservers, hgrown⟩ := hstep.servers_precede hreachable hbetween
      exact ⟨servers, hservers, hprecedes.trans hgrown⟩
    have hstart : ∀ task, ¬read.WereRead (Thread.start task).past := by
      rintro task ⟨record, ⟨document, hmem, -⟩, -⟩
      cases hmem
    have hbegin : ∀ task, thread ∈ (world.begin task).threads → thread ∈ world.threads := by
      intro task hmem
      rcases List.mem_append.mp hmem with hmem | hmem
      · exact hmem
      · rw [List.mem_singleton.mp hmem] at hread
        exact absurd hread (hstart task)
    cases hstep with
    | attach _ => exact hgrow thread hthread hread
    | established _ => exact hgrow thread hthread hread
    | establish quorum uuid constraints => exact hgrow thread (hbegin _ hthread) hread
    | request _ asked => exact hgrow thread (hbegin _ hthread) hread
    | @exchange index before call next answer after hbefore hrest hanswer =>
      rcases List.mem_or_eq_of_mem_set hthread with hthread | rfl
      · exact hgrow thread hthread hread
      · rcases hanswer.servers?_of_found hread with hold | hnow
        · exact hgrow before (List.mem_of_getElem? hbefore) hold
        · exact ⟨read, hnow, read.precedes_refl⟩

end ControlPlane
