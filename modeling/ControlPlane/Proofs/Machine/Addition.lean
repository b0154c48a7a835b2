import ControlPlane.Proofs.Undisturbed.Roots

/-!
# Root machines are added on request

A request for root machines that nothing disturbs adds one machine for each
template, in their order and with the next numbers, or it fails with the error
of the first template that is refused.  Then the numbers drawn so far are lost,
and nothing else has changed.
-/

namespace ControlPlane

open Json Store

/-- Machines without state servers among them leave the lists of state servers alone. -/
theorem StateServers.reads_bootstrapOps (store : Store) {machines : List Machine}
    (h : ∀ machine ∈ machines, machine.isStateServer = false) :
    store.Reads (bootstrapOps machines) (.ok []) := by
  have hnone : machines.any (·.isStateServer) = false := by simpa using h
  unfold bootstrapOps
  rw [hnone]
  exact .pure []

theorem Machine.isStateServer_rootsFrom {raws : List Template} (count : Nat)
    (h : ∀ raw ∈ raws, Job.manageEnviron ∉ raw.jobs) :
    ∀ machine ∈ rootsFrom count raws, machine.isStateServer = false := by
  intro machine hmachine
  obtain ⟨index, hindex, rfl⟩ := List.mem_mapIdx.mp hmachine
  have hjobs : Job.manageEnviron ∉ raws[index].jobs := h _ (List.getElem_mem hindex)
  simpa [isStateServer, hasJob, Template.asked] using hjobs

namespace Store.Regular

variable {μ : Type} {advisor : Advisor μ} {memory memory' : μ} {store : Store}
  {environment : Environment} {records : Records} {defaults : Constraints} {raws : List Template}

/-- Templates that are all admitted become machines. -/
theorem perform_addAll (h : store.Regular environment records)
    (halive : environment.life = .alive) (hdefaults : store.constraints? = some defaults)
    (hjobs : ∀ raw ∈ raws, Job.manageEnviron ∉ raw.jobs)
    (hadmits : advisor.Admits defaults raws memory memory') :
    ∃ after, advisor.perform (Machine.addAll raws) (store, memory) =
        (.ok (Machine.rootsFrom (store.count MachineId.rootCounter) raws), after, memory') ∧
      store.GainsRoots after defaults raws ∧
      after.get? Layout.stateServers Layout.environmentKey =
        store.get? Layout.stateServers Layout.environmentKey := by
  have hserver := Machine.isStateServer_rootsFrom (store.count MachineId.rootCounter) hjobs
  have hnone : StateServers.addOp?
      (Machine.rootsFrom (store.count MachineId.rootCounter) raws) {} = none :=
    StateServers.addOp?_eq_none_iff.mpr hserver
  obtain ⟨drawn, hroots, hdraws, hformed⟩ := CreationPlan.perform_roots hdefaults h.formed hadmits
  have hdrawn := h.draws hdraws hformed
  obtain ⟨after, hcommit, hgains⟩ := h.exists_gainsRoots halive rfl hdraws hformed defaults {}
    (by simp [hnone])
  have hchecked := (h.governed.reads_requireAlive halive).perform_eq advisor memory
  have hops := (StateServers.reads_bootstrapOps drawn hserver).perform_eq advisor memory'
  have hcommitted := hdrawn.governed.perform_commit halive hcommit advisor memory'
  rw [hnone, Option.toList_none] at hcommitted
  refine ⟨after, ?_, hgains, ?_⟩
  · unfold Machine.addAll
    rw [Advisor.perform_inContext, Advisor.perform_bind_ok hchecked,
      Advisor.perform_bind_ok hroots, CreationPlan.map_machine_rootsFrom,
      Advisor.perform_bind_ok hops]
    rw [Advisor.perform_bind_ok hcommitted]
    rfl
  · have hlists : Layout.stateServers ∉ Layout.containerRefs :: Machine.ownCollections := by decide
    have hsequence : Layout.stateServers ≠ Layout.sequence := by decide
    rw [← hdraws.get?_eq hsequence]
    rw [← CreationPlan.map_machine_rootsFrom defaults] at hcommit hserver
    apply CreationPlan.get?_eq_roots (CreationPlan.exists_ofRoot_rootsFrom _ _ _) hcommit
    · intro plan _ hmem
      exact hlists (Machine.fst_mem_of_mem_allPlaces hmem)
    · exact .inr (by simpa using hserver)

/-- A template that is refused leaves nothing of the request but the numbers drawn so far. -/
theorem perform_addAll_error {admitted : Nat} {error : Error}
    (h : store.Regular environment records) (halive : environment.life = .alive)
    (hdefaults : store.constraints? = some defaults)
    (hrefuses : advisor.Refuses defaults raws memory admitted error memory') :
    ∃ after, advisor.perform (Machine.addAll raws) (store, memory) =
        (.error (error.inContext "cannot add a new machine"), after, memory') ∧
      store.Draws after MachineId.rootCounter admitted := by
  obtain ⟨after, hroots, hdraws⟩ :=
    CreationPlan.perform_roots_error hdefaults h.formed hrefuses
  have hchecked := (h.governed.reads_requireAlive halive).perform_eq advisor memory
  refine ⟨after, ?_, hdraws⟩
  unfold Machine.addAll
  rw [Advisor.perform_inContext, Advisor.perform_bind_ok hchecked,
    Advisor.perform_bind_error hroots]
  rfl

end Store.Regular

/-- A request for root machines that are no state servers, in an environment that is alive: if all
templates are admitted there is a machine for each of them, in order and with the next numbers, with
all its records and nothing else changed; otherwise the request fails with the error of the first
template that is not, and only the numbers of those before it have been drawn. -/
theorem addAll_adds_all_or_none {world : World} (hreachable : Reachable world)
    (halive : world.store.life? = some .alive) (raws : List Template)
    (hjobs : ∀ raw ∈ raws, Job.manageEnviron ∉ raw.jobs) {μ : Type} (advisor : Advisor μ)
    (memory : μ) :
    ∃ defaults, world.store.Reads Environment.constraints (.ok defaults) ∧
      (∀ memory', advisor.Admits defaults raws memory memory' →
        ∃ after, advisor.perform (Machine.addAll raws) (world.store, memory) =
            (.ok (Machine.rootsFrom (world.store.count MachineId.rootCounter) raws), after,
              memory') ∧
          world.store.GainsRoots after defaults raws ∧
          after.get? Layout.stateServers Layout.environmentKey =
            world.store.get? Layout.stateServers Layout.environmentKey) ∧
      (∀ admitted error memory', advisor.Refuses defaults raws memory admitted error memory' →
        ∃ after, advisor.perform (Machine.addAll raws) (world.store, memory) =
            (.error (error.inContext "cannot add a new machine"), after, memory') ∧
          world.store.Draws after MachineId.rootCounter admitted) ∧
      ((∃ memory', advisor.Admits defaults raws memory memory') ∨
        ∃ admitted error memory', advisor.Refuses defaults raws memory admitted error memory') := by
  obtain ⟨environment, records, defaults, hregular, hlife, hdefaults⟩ :=
    hreachable.regular_of_alive halive
  refine ⟨defaults, reads_constraints hdefaults, ?_, ?_, ?_⟩
  · intro memory' hadmits
    exact hregular.perform_addAll hlife hdefaults hjobs hadmits
  · intro admitted error memory' hrefuses
    exact hregular.perform_addAll_error hlife hdefaults hrefuses
  · exact advisor.admits_or_refuses defaults raws memory

/-- A template for a machine that exists already, with the constraints of a single machine. -/
def World.known : Template :=
  { sized with
    instanceId := some ⟨"i-0"⟩
    nonce := some "n"
    hardware := some { mem := some 4096 } }

/-- To the constrained world two machines are added, the second of them with its instance, so that
the policy is asked about the first one only.  A request fails whose second template has no series,
and so does one under a policy that is out of reach, which has drawn nothing.  What is wanted of a
machine is layered over what is common. -/
theorem addAll_adds_all_or_none_constrained :
    (∃ after, Advisor.choosy.perform (Machine.addAll [World.plain, World.known])
          (World.constrained.store, []) =
        (.ok [World.plain.asked "3" none, World.known.asked "4" none], after,
          [("jammy", { World.common with container := none })]) ∧
      after.Tells (World.plain.asked "3" none) { World.common with container := none } {} [] ∧
      after.Tells (World.known.asked "4" none) World.provisioned { mem := some 4096 } [] ∧
      after.count MachineId.rootCounter = 5) ∧
    (∃ after, Advisor.choosy.perform
        (Machine.addAll [World.sized, { World.known with series := "" }])
          (World.constrained.store, []) =
        (.error (.invalidTemplate "no series specified"), after,
          [("jammy", World.provisioned)]) ∧
      World.constrained.store.Draws after MachineId.rootCounter 1) ∧
    ∃ after, (Advisor.ofPolicy (some (.broken ["offline"]))).perform
        (Machine.addAll [World.sized]) (World.constrained.store, []) =
        (.error (.internalError "cannot add a new machine: cannot get prechecker: offline"),
          after, []) ∧
      World.constrained.store.Draws after MachineId.rootCounter 0 := by
  obtain ⟨hlife, hdefaults, hcount⟩ := World.constrained_alive
  refine ⟨?_, ?_, ?_⟩
  · obtain ⟨defaults, hreads, hadded, -⟩ := addAll_adds_all_or_none World.reachable_constrained
      hlife [World.plain, World.known] (by decide) Advisor.choosy []
    obtain rfl := Except.ok.inj (hreads.unique (reads_constraints hdefaults))
    obtain ⟨after, hperform, hgains, -⟩ := hadded _ (.cons rfl (.cons rfl (.nil _)))
    have hfirst := hgains.tells 0 World.plain rfl
    have hsecond := hgains.tells 1 World.known rfl
    have hroots := hgains.count
    have hmachines : Machine.rootsFrom 3 [World.plain, World.known] =
        [World.plain.asked "3" none, World.known.asked "4" none] := by decide +kernel
    rw [hcount, hmachines] at hperform
    rw [hcount] at hfirst hsecond hroots
    exact ⟨after, hperform, hfirst, hsecond, hroots⟩
  · obtain ⟨defaults, hreads, -, hrefused, -⟩ := addAll_adds_all_or_none
      World.reachable_constrained hlife [World.sized, { World.known with series := "" }]
      (by decide) Advisor.choosy []
    obtain rfl := Except.ok.inj (hreads.unique (reads_constraints hdefaults))
    exact hrefused 1 _ _ (.tail rfl (.head rfl))
  · obtain ⟨defaults, hreads, -, hrefused, -⟩ := addAll_adds_all_or_none
      World.reachable_constrained hlife [World.sized] (by decide)
      (Advisor.ofPolicy (some (.broken ["offline"]))) []
    obtain rfl := Except.ok.inj (hreads.unique (reads_constraints hdefaults))
    exact hrefused 0 _ _ (.head rfl)

end ControlPlane
