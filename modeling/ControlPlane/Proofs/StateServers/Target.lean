import ControlPlane.Availability
import ControlPlane.Proofs.Undisturbed.Roots

/-!
# State servers are raised to a target

A request that nothing disturbs checks its target first, then the environment,
and then how many voters there are.  Where voters are missing it creates as many
machines with the next numbers, so that afterwards the voters are as many as the
target says.  It does so unless the policy has an objection, and a request that
fails changes nothing.
-/

namespace ControlPlane

open Json Store

/-- The answers of a policy depend on what it is asked alone. -/
structure Advisor.Steady {μ : Type} (advisor : Advisor μ) : Prop where
  prechecker : ∀ memory memory',
    (advisor.prechecker memory).1 = (advisor.prechecker memory').1
  precheck : ∀ series constraints memory memory',
    (advisor.precheck series constraints memory).1 =
      (advisor.precheck series constraints memory').1

theorem Advisor.steady_ofPolicy (policy : Option Policy) : (ofPolicy policy).Steady where
  prechecker _ _ := rfl
  precheck _ _ _ _ := rfl

namespace Advisor.Steady

variable {μ : Type} {advisor : Advisor μ} {memory memory' : μ} {defaults : Constraints}
  {raw : Template}

theorem fst_judge (h : advisor.Steady) (series : String) (constraints : Constraints)
    (memory memory' : μ) :
    (advisor.judge series constraints memory).1 = (advisor.judge series constraints memory').1 := by
  have hprechecker := h.prechecker memory memory'
  unfold judge
  generalize advisor.prechecker memory = reply at hprechecker ⊢
  generalize advisor.prechecker memory' = reply' at hprechecker ⊢
  obtain ⟨answer, asked⟩ := reply
  obtain ⟨answer', asked'⟩ := reply'
  obtain rfl : answer = answer' := hprechecker
  cases answer with
  | error causes => rfl
  | ok has =>
    cases has with
    | false => rfl
    | true =>
      have hprecheck := h.precheck series constraints asked asked'
      dsimp only
      generalize advisor.precheck series constraints asked = reply at hprecheck ⊢
      generalize advisor.precheck series constraints asked' = reply' at hprecheck ⊢
      obtain ⟨verdict, told⟩ := reply
      obtain ⟨verdict', told'⟩ := reply'
      obtain rfl : verdict = verdict' := hprecheck
      cases verdict <;> rfl

theorem fst_assess (h : advisor.Steady) (defaults : Constraints) (raw : Template)
    (memory memory' : μ) :
    (advisor.assess defaults raw memory).1 = (advisor.assess defaults raw memory').1 := by
  unfold assess
  cases raw.validate defaults true with
  | error error => rfl
  | ok template =>
    dsimp only
    split
    · exact h.fst_judge template.series template.constraints memory memory'
    · rfl

/-- What is admitted once is admitted any number of times. -/
theorem admits_replicate (h : advisor.Steady)
    (hassess : (advisor.assess defaults raw memory).1 = .ok ()) (amount : Nat) :
    ∃ memory', advisor.Admits defaults (List.replicate amount raw) memory memory' := by
  induction amount generalizing memory with
  | zero => exact ⟨memory, .nil memory⟩
  | succ amount ih =>
    have hagain := (h.fst_assess defaults raw (advisor.assess defaults raw memory).2 memory).trans
      hassess
    obtain ⟨memory', hrest⟩ := ih hagain
    exact ⟨memory', .cons (Prod.ext hassess rfl) hrest⟩

end Advisor.Steady

namespace Controller

variable {μ : Type} {maxPeers target voters : Nat}

theorem missingVoters_of_valid (hodd : target % 2 = 1) (hlimit : target ≤ maxPeers)
    (voters : Nat) :
    missingVoters maxPeers target voters =
      if target < voters then .error (.cannotReduce voters target) else .ok (target - voters) := by
  unfold missingVoters
  rw [if_neg (by omega), if_neg (Nat.not_lt.mpr hlimit)]

theorem reads_missingVoters (hodd : target % 2 = 1) (hlimit : target ≤ maxPeers)
    (hvoters : voters ≤ target) (store : Store) :
    store.Reads (liftM (missingVoters maxPeers target voters)) (.ok (target - voters)) := by
  rw [missingVoters_of_valid hodd hlimit, if_neg (Nat.not_lt.mpr hvoters)]
  exact .lift _

theorem reads_missingVoters_error (hodd : target % 2 = 1) (hlimit : target ≤ maxPeers)
    (hvoters : target < voters) (store : Store) :
    store.Reads (liftM (missingVoters maxPeers target voters))
      (.error (.cannotReduce voters target)) := by
  rw [missingVoters_of_valid hodd hlimit, if_pos hvoters]
  exact .lift _

/-- A target that is not valid is refused without a call. -/
theorem run_ensureAvailability_error {controller : Controller} {error : Error}
    {constraints : Constraints} {series : String}
    (h : missingVoters controller.maxPeers target 0 = .error error) :
    (controller.ensureAvailability target constraints series).run = .done (.error error) := by
  unfold ensureAvailability
  rw [h]
  rfl

/-- How voters that have been planned are added. -/
def addVoters (target : Nat) (current : StateServers) (plans : List CreationPlan) :
    Procedure Unit := do
  let machines := plans.map (·.machine)
  let planned := current.votingMachineIds.length +
    (machines.filter fun machine => !machine.noVote).length
  if planned ≠ target ∨ planned % 2 ≠ 1 then
    throw <| .internalError
      ("planned " ++ toString planned ++ " voting state servers, wanted " ++ toString target)
  Procedure.inContext "failed to create new state server machines"
    (commit (plans.flatMap (·.ops) ++ (StateServers.addOp? machines current).toList))

/-- The template of a state server is refused without a series, and otherwise left to the policy. -/
theorem assess_serverTemplate (advisor : Advisor μ) (defaults : Constraints) (series : String)
    (constraints : Constraints) (memory : μ) :
    advisor.assess defaults (serverTemplate series constraints) memory =
      if series = "" then (.error (.invalidTemplate "no series specified"), memory)
      else
        advisor.judge series { constraints.withFallbacks defaults with container := none }
          memory := by
  unfold Advisor.assess Template.validate
  by_cases hseries : series = ""
  · subst hseries
    rfl
  · have hgiven : (serverTemplate series constraints).series.isEmpty = false := by
      simpa [serverTemplate] using hseries
    rw [hgiven, if_neg hseries]
    rfl

end Controller

/-! ## The new state servers -/

theorem Machine.map_id_rootsFrom (count : Nat) (raws : List Template) :
    (rootsFrom count raws).map (·.id) =
      (List.range raws.length).map fun index => MachineId.root (count + index) := by
  apply List.ext_getElem
  · simp [rootsFrom]
  · intro index _ _
    simp [rootsFrom, Template.asked]

/-- Machines that all vote are on both lists. -/
theorem StateServers.ofMachines_eq_of_hasVote {machines : List Machine}
    (h : ∀ machine ∈ machines, machine.hasVote = true) :
    ofMachines machines =
      { machineIds := machines.map (·.id), votingMachineIds := machines.map (·.id) } := by
  have hservers : machines.filter (·.isStateServer) = machines :=
    List.filter_eq_self.mpr fun machine hmem => (Bool.and_eq_true_iff.mp (h machine hmem)).1
  rw [ofMachines, hservers, List.filter_eq_self.mpr h]

namespace Controller

theorem hasVote_serverTemplate {count amount : Nat} {series : String} {constraints : Constraints} :
    ∀ machine ∈ Machine.rootsFrom count (List.replicate amount (serverTemplate series constraints)),
      machine.hasVote = true := by
  intro machine hmachine
  obtain ⟨index, hindex, rfl⟩ := List.mem_mapIdx.mp hmachine
  rw [List.getElem_replicate]
  rfl

theorem length_filter_serverTemplate (count amount : Nat) (series : String)
    (constraints : Constraints) :
    ((Machine.rootsFrom count (List.replicate amount (serverTemplate series constraints))).filter
      fun machine => !machine.noVote).length = amount := by
  rw [List.filter_eq_self.mpr fun machine hmem =>
    (Bool.and_eq_true_iff.mp (hasVote_serverTemplate machine hmem)).2]
  simp [Machine.rootsFrom]

end Controller

/-- The lists of state servers with further voters behind them. -/
def StateServers.withVoters (servers : StateServers) (ids : List String) : StateServers where
  machineIds := servers.machineIds ++ ids
  votingMachineIds := servers.votingMachineIds ++ ids

/-- What there is after voters have been added: root machines with the next numbers, whose ids are
behind the others on both lists of state servers. -/
structure Store.GainsVoters (store after : Store) (defaults : Constraints) (template : Template)
    (servers : StateServers) (amount : Nat) : Prop where
  roots : store.GainsRoots after defaults (List.replicate amount template)
  servers : after.Reads StateServers.fetch (.ok (servers.withVoters
    ((List.range amount).map fun index =>
      MachineId.root (store.count MachineId.rootCounter + index))))

theorem Store.GainsVoters.exists_raised {store after : Store} {defaults : Constraints}
    {template : Template} {servers : StateServers} {amount : Nat}
    (h : store.GainsVoters after defaults template servers amount) :
    ∃ raised, after.Reads StateServers.fetch (.ok raised) ∧
      raised.votingMachineIds.length = servers.votingMachineIds.length + amount :=
  ⟨_, h.servers, by simp [StateServers.withVoters]⟩

/-- Lists that have not changed since they were read can be added to. -/
theorem Store.Holds.failure?_addOp? {store : Store} {records : Records} {servers : StateServers}
    {machines : List Machine} (h : store.Holds records)
    (hservers : records.servers? = some servers) :
    ∀ op, StateServers.addOp? machines servers = some op →
      op.assertion.failure? (store.get? Layout.stateServers Layout.environmentKey) = none := by
  intro op hop
  rw [h.servers, hservers]
  exact (StateServers.failure?_addOp?_iff hop).mpr ⟨rfl, rfl⟩

/-- Root machines that vote are behind the others on both lists. -/
theorem Store.Holds.reads_servers_roots {store after : Store} {records : Records}
    {servers : StateServers} {defaults : Constraints} {count : Nat} {raws : List Template}
    (h : store.Holds records) (hconsistent : records.Consistent)
    (hservers : records.servers? = some servers)
    (hvote : ∀ machine ∈ Machine.rootsFrom count raws, machine.hasVote = true)
    (hcommit : store.transact (Environment.checkAliveOp ::
      ((CreationPlan.rootsFrom defaults count raws).flatMap (·.ops) ++
        (StateServers.addOp? (Machine.rootsFrom count raws) servers).toList)) = .ok after) :
    after.Reads StateServers.fetch (.ok (servers.withVoters
      ((List.range raws.length).map fun index => MachineId.root (count + index)))) := by
  have hbatch := CreationPlan.batch_of_roots
    (CreationPlan.exists_ofRoot_rootsFrom defaults count raws) servers
  rw [CreationPlan.map_machine_rootsFrom] at hbatch
  obtain ⟨hnodup, hfresh, -⟩ := hbatch.machine_add h hcommit
  obtain ⟨hlists, -⟩ := h.servers_add hconsistent hnodup hfresh hcommit hbatch.servers_eq
  have hadded : (records.add (Machine.rootsFrom count raws)).servers? =
      some (servers.withVoters
        ((List.range raws.length).map fun index => MachineId.root (count + index))) := by
    change records.servers?.map _ = _
    rw [hservers, Option.map_some, StateServers.adding,
      StateServers.ofMachines_eq_of_hasVote hvote, Machine.map_id_rootsFrom]
    rfl
  rw [hadded] at hlists
  exact (Procedure.reads_fetch_some .stateServerInfo hlists
    (StateServersRecord.decode_toValue _)).map

namespace Store.Regular

variable {μ : Type} {advisor : Advisor μ} {memory memory' : μ} {store : Store}
  {environment : Environment} {records : Records} {defaults constraints : Constraints}
  {servers : StateServers} {controller : Controller} {target : Nat} {series : String}
  {error : Error}

/-- In an environment that exists there are lists of state servers. -/
theorem exists_servers (h : store.Regular environment records) :
    ∃ servers, records.servers? = some servers := by
  have hestablished := h.holds.environment
  rw [h.governed.document] at hestablished
  exact Option.isSome_iff_exists.mp (h.consistent.lists.trans hestablished.symm)

/-- A request in an environment that is not alive fails. -/
theorem reads_ensureAvailability_dead (h : store.Regular environment records)
    (hdead : environment.life ≠ .alive) (hodd : target % 2 = 1)
    (hlimit : target ≤ controller.maxPeers) :
    store.Reads (controller.ensureAvailability target constraints series)
      (.error .environmentNotAlive) := by
  apply (Controller.reads_missingVoters hodd hlimit (Nat.zero_le _) store).bind
  exact (h.governed.reads_requireAlive_error hdead).bind_error

section Alive

variable (h : store.Regular environment records) (halive : environment.life = .alive)
  (hservers : records.servers? = some servers) (hodd : target % 2 = 1)
  (hlimit : target ≤ controller.maxPeers)

include h halive hservers hodd hlimit

/-- Voters are not taken away. -/
theorem reads_ensureAvailability_reduce (hvoters : target < servers.votingMachineIds.length) :
    store.Reads (controller.ensureAvailability target constraints series)
      (.error (.cannotReduce servers.votingMachineIds.length target)) := by
  apply (Controller.reads_missingVoters hodd hlimit (Nat.zero_le _) store).bind
  apply (h.governed.reads_requireAlive halive).bind
  apply (h.holds.reads_servers hservers).bind
  exact (Controller.reads_missingVoters_error hodd hlimit hvoters store).bind_error

/-- Where no voter is missing, nothing is done. -/
theorem reads_ensureAvailability_reached (hvoters : servers.votingMachineIds.length = target) :
    store.Reads (controller.ensureAvailability target constraints series) (.ok ()) := by
  apply (Controller.reads_missingVoters hodd hlimit (Nat.zero_le _) store).bind
  apply (h.governed.reads_requireAlive halive).bind
  apply (h.holds.reads_servers hservers).bind
  apply (Controller.reads_missingVoters hodd hlimit hvoters.le store).bind
  rw [if_pos (by omega)]
  exact .pure _

variable (hvoters : servers.votingMachineIds.length < target)

include hvoters

/-- Where voters are missing they are planned and added. -/
theorem perform_ensureAvailability_eq (advisor : Advisor μ) (memory : μ) :
    advisor.perform (controller.ensureAvailability target constraints series) (store, memory) =
      advisor.perform
        ((List.replicate (target - servers.votingMachineIds.length)
            (Controller.serverTemplate series constraints)).mapM CreationPlan.root >>=
          Controller.addVoters target servers) (store, memory) := by
  have htarget := (Controller.reads_missingVoters hodd hlimit (Nat.zero_le _) store).perform_eq
    advisor memory
  have hchecked := (h.governed.reads_requireAlive halive).perform_eq advisor memory
  have hread := (h.holds.reads_servers hservers).perform_eq advisor memory
  have hmissing := (Controller.reads_missingVoters hodd hlimit hvoters.le store).perform_eq
    advisor memory
  unfold Controller.ensureAvailability
  rw [Advisor.perform_bind_ok htarget, Advisor.perform_bind_ok hchecked,
    Advisor.perform_bind_ok hread, Advisor.perform_bind_ok hmissing, if_neg (by omega)]
  rfl

/-- If the template of a state server is not admitted, nothing is created. -/
theorem perform_ensureAvailability_error (hdefaults : store.constraints? = some defaults)
    (hassess : advisor.assess defaults (Controller.serverTemplate series constraints) memory =
      (.error error, memory')) :
    advisor.perform (controller.ensureAvailability target constraints series) (store, memory) =
      (.error error, store, memory') := by
  obtain ⟨amount, hamount⟩ : ∃ amount, target - servers.votingMachineIds.length = amount + 1 :=
    ⟨_, (Nat.succ_pred_eq_of_pos (by omega)).symm⟩
  rw [h.perform_ensureAvailability_eq halive hservers hodd hlimit hvoters, hamount,
    List.replicate_succ, List.mapM_cons]
  apply Advisor.perform_bind_error
  exact Advisor.perform_bind_error (CreationPlan.perform_root_error hdefaults hassess)

/-- Without a series nothing is created, whatever the policy is. -/
theorem reads_ensureAvailability_unnamed (hdefaults : store.constraints? = some defaults)
    (hseries : series = "") :
    store.Reads (controller.ensureAvailability target constraints series)
      (.error (.invalidTemplate "no series specified")) where
  perform_eq advisor memory := by
    apply h.perform_ensureAvailability_error halive hservers hodd hlimit hvoters hdefaults
    rw [Controller.assess_serverTemplate, if_pos hseries]

/-- If it is admitted, all missing voters are created. -/
theorem perform_ensureAvailability_missing (hdefaults : store.constraints? = some defaults)
    (hsteady : advisor.Steady)
    (hassess : (advisor.assess defaults (Controller.serverTemplate series constraints) memory).1 =
      .ok ()) :
    ∃ after memory',
      advisor.perform (controller.ensureAvailability target constraints series) (store, memory) =
        (.ok (), after, memory') ∧
      store.GainsVoters after defaults (Controller.serverTemplate series constraints) servers
        (target - servers.votingMachineIds.length) := by
  rw [h.perform_ensureAvailability_eq halive hservers hodd hlimit hvoters]
  obtain ⟨amount, hamount⟩ : ∃ amount, target = servers.votingMachineIds.length + amount :=
    Nat.exists_eq_add_of_le hvoters.le
  have hdifference : target - servers.votingMachineIds.length = amount := by omega
  rw [hdifference]
  obtain ⟨memory', hadmits⟩ := hsteady.admits_replicate hassess amount
  obtain ⟨drawn, hroots, hdraws, hformed⟩ := CreationPlan.perform_roots hdefaults h.formed hadmits
  have hdrawn := h.draws hdraws hformed
  obtain ⟨after, hcommit, hgains⟩ := h.exists_gainsRoots halive rfl hdraws hformed defaults
    servers (h.holds.failure?_addOp? hservers)
  refine ⟨after, memory', ?_, ⟨hgains, ?_⟩⟩
  · have hcommitted := hdrawn.governed.perform_commit halive hcommit advisor memory'
    rw [Advisor.perform_bind_ok hroots]
    simp only [Controller.addVoters, CreationPlan.map_machine_rootsFrom,
      Controller.length_filter_serverTemplate]
    rw [if_neg (by omega), Advisor.perform_inContext, hcommitted]
    rfl
  · have hraised := hdrawn.holds.reads_servers_roots hdrawn.consistent hservers
      Controller.hasVote_serverTemplate hcommit
    rwa [List.length_replicate] at hraised

end Alive

end Store.Regular

/-- What a request for a number of voters does that nothing disturbs.  A target that is not valid is
refused without a call.  In an environment that is not alive, with too many voters or with enough of
them nothing is done.  Otherwise the missing voters are created, if there is a series and the policy
does not refuse them; the voters are as many as the target then. -/
theorem ensureAvailability_reaches_target {world : World} (hreachable : Reachable world)
    {life : Life} (hlife : world.store.life? = some life) {μ : Type} {advisor : Advisor μ}
    (hsteady : advisor.Steady) (memory : μ) (controller : Controller) (target : Nat)
    (constraints : Constraints) (series : String) :
    let request := controller.ensureAvailability target constraints series
    let template : Template := { series, jobs := [.hostUnits, .manageEnviron], constraints }
    (target % 2 = 0 → request.run =
      .done (.error (.invalidTarget "number of state servers must be odd and greater than zero"))) ∧
    (target % 2 = 1 → controller.maxPeers < target → request.run =
      .done (.error (.invalidTarget
        ("state server count is too large (allowed " ++ toString controller.maxPeers ++ ")")))) ∧
    (target % 2 = 1 → target ≤ controller.maxPeers → life ≠ .alive →
      world.store.Reads request (.error .environmentNotAlive)) ∧
    (target % 2 = 1 → target ≤ controller.maxPeers → life = .alive →
      ∃ defaults servers, world.store.Reads Environment.constraints (.ok defaults) ∧
        world.store.Reads StateServers.fetch (.ok servers) ∧
        (target < servers.votingMachineIds.length →
          world.store.Reads request
            (.error (.cannotReduce servers.votingMachineIds.length target))) ∧
        (servers.votingMachineIds.length = target → world.store.Reads request (.ok ())) ∧
        (servers.votingMachineIds.length < target → series = "" →
          world.store.Reads request (.error (.invalidTemplate "no series specified"))) ∧
        (servers.votingMachineIds.length < target → series ≠ "" →
          (∀ error memory',
            advisor.judge series { constraints.withFallbacks defaults with container := none }
                memory = (.error error, memory') →
              advisor.perform request (world.store, memory) =
                (.error error, world.store, memory')) ∧
          (∀ memory',
            advisor.judge series { constraints.withFallbacks defaults with container := none }
                memory = (.ok (), memory') →
              ∃ after memory'',
                advisor.perform request (world.store, memory) = (.ok (), after, memory'') ∧
                world.store.GainsVoters after defaults template servers
                  (target - servers.votingMachineIds.length) ∧
                ∃ raised, after.Reads StateServers.fetch (.ok raised) ∧
                  raised.votingMachineIds.length = target))) := by
  intro request template
  obtain ⟨environment, records, hregular⟩ := hreachable.regular (by rw [hlife]; rfl)
  obtain ⟨servers, hservers⟩ := hregular.exists_servers
  obtain ⟨defaults, hdefaults⟩ := hregular.governed.exists_constraints hregular.formed
  rw [hregular.governed.life?_eq] at hlife
  obtain rfl : environment.life = life := Option.some.inj hlife
  refine ⟨?_, ?_, ?_, ?_⟩
  · intro heven
    exact Controller.run_ensureAvailability_error (if_pos heven)
  · intro hodd hlarge
    exact Controller.run_ensureAvailability_error ((if_neg (by omega)).trans (if_pos hlarge))
  · intro hodd hlimit hdead
    exact hregular.reads_ensureAvailability_dead hdead hodd hlimit
  · intro hodd hlimit halive
    refine ⟨defaults, servers, reads_constraints hdefaults, hregular.holds.reads_servers hservers,
      ?_, ?_, ?_, ?_⟩
    · exact hregular.reads_ensureAvailability_reduce halive hservers hodd hlimit
    · exact hregular.reads_ensureAvailability_reached halive hservers hodd hlimit
    · intro hvoters hseries
      exact hregular.reads_ensureAvailability_unnamed halive hservers hodd hlimit hvoters
        hdefaults hseries
    · intro hvoters hseries
      have hassess := Controller.assess_serverTemplate advisor defaults series constraints memory
      rw [if_neg hseries] at hassess
      constructor
      · intro error memory' hjudge
        exact hregular.perform_ensureAvailability_error halive hservers hodd hlimit hvoters
          hdefaults (hassess.trans hjudge)
      · intro memory' hjudge
        obtain ⟨after, memory'', hperform, hgains⟩ :=
          hregular.perform_ensureAvailability_missing halive hservers hodd hlimit hvoters
            hdefaults hsteady (congrArg Prod.fst (hassess.trans hjudge))
        obtain ⟨raised, hraised, hlength⟩ := hgains.exists_raised
        exact ⟨after, memory'', hperform, hgains, raised, hraised, by omega⟩

/-- The constrained world, where the environment is being ended. -/
def World.ending : World :=
  constrained.perform none .ending

/-- The constrained world has three voters.  Two more are created on request with what is wanted
of them layered over what is common, unless the policy refuses machines like these; and an
environment that is being ended gets none. -/
theorem ensureAvailability_reaches_target_constrained :
    World.constrained.store.Reads (World.usual.ensureAvailability 1 World.wanted "jammy")
      (.error (.cannotReduce 3 1)) ∧
    Advisor.choosy.perform (World.usual.ensureAvailability 5 World.wanted "focal")
        (World.constrained.store, []) =
      (.error (.provisioningRejected "no: such: image"), World.constrained.store,
        [("focal", World.provisioned)]) ∧
    (∃ after memory,
      Advisor.choosy.perform (World.usual.ensureAvailability 5 World.wanted "jammy")
          (World.constrained.store, []) = (.ok (), after, memory) ∧
      after.Tells
        (Template.asked { World.sized with jobs := [.hostUnits, .manageEnviron] } "4" none)
        World.provisioned {} [] ∧
      after.Reads StateServers.fetch (.ok
        { machineIds := ["0", "1", "2", "3", "4"]
          votingMachineIds := ["0", "1", "2", "3", "4"] })) ∧
    World.ending.store.Reads (World.usual.ensureAvailability 5 World.wanted "jammy")
      (.error .environmentNotAlive) := by
  obtain ⟨hlife, hdefaults, hcount⟩ := World.constrained_alive
  have hlists : World.constrained.store.Reads StateServers.fetch (.ok
      { machineIds := ["0", "1", "2"], votingMachineIds := ["0", "1", "2"] }) := by
    have hrecord : World.constrained.store.record? StateServersRecord.decode Layout.stateServers
        Layout.environmentKey = some
          { id := "e"
            servers :=
              { machineIds := ["0", "1", "2"], votingMachineIds := ["0", "1", "2"] } } := by
      decide +kernel
    exact (reads_of_record? .stateServerInfo hrecord).map
  have hsteady : Advisor.choosy.Steady := Advisor.steady_ofPolicy _
  have hrequest := fun target => ensureAvailability_reaches_target World.reachable_constrained hlife
    hsteady [] World.usual target World.wanted
  refine ⟨?_, ?_, ?_, ?_⟩
  · obtain ⟨defaults, servers, -, hservers, hreduce, -⟩ :=
      (hrequest 1 "jammy").2.2.2 rfl (by decide) rfl
    obtain rfl := Except.ok.inj (hservers.unique hlists)
    exact hreduce (by decide)
  · obtain ⟨defaults, servers, hreads, hservers, -, -, -, hmissing⟩ :=
      (hrequest 5 "focal").2.2.2 rfl (by decide) rfl
    obtain rfl := Except.ok.inj (hservers.unique hlists)
    obtain rfl := Except.ok.inj (hreads.unique (reads_constraints hdefaults))
    exact (hmissing (by decide) (by decide)).1 _ _ rfl
  · obtain ⟨defaults, servers, hreads, hservers, -, -, -, hmissing⟩ :=
      (hrequest 5 "jammy").2.2.2 rfl (by decide) rfl
    obtain rfl := Except.ok.inj (hservers.unique hlists)
    obtain rfl := Except.ok.inj (hreads.unique (reads_constraints hdefaults))
    obtain ⟨after, memory, hperform, hgains, -⟩ :=
      (hmissing (by decide) (by decide)).2 _ rfl
    have htells := hgains.roots.tells 1 _ rfl
    have hread := hgains.servers
    rw [hcount] at htells hread
    exact ⟨after, memory, hperform, htells, hread⟩
  · have hdying : World.ending.store.life? = some .dying := by decide +kernel
    have hreachable : Reachable World.ending := by
      unfold World.ending World.perform
      exact World.reachable_constrained.carry _ none _ (World.permits_constrained _)
    obtain ⟨-, -, hdead, -⟩ := ensureAvailability_reaches_target hreachable hdying hsteady []
      World.usual 5 World.wanted "jammy"
    exact hdead rfl (by decide) (by decide)

end ControlPlane
