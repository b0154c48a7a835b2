import ControlPlane.Proofs.Environment.Death
import ControlPlane.Proofs.Machine.Places
import ControlPlane.Proofs.Run.Counters

/-!
# What transactions conflict over

A transaction rests on what its thread has learned: that the environment is
alive, which numbers are its own, which machines exist.  All this stays true
until it is submitted, so that only two things can abort it.  The lists of
state servers may be others than those that were read, and a machine that
reports what it supports may not exist.
-/

namespace ControlPlane

open Json Store

variable {world later : World} {event : Event} {events : List Event} {index : Nat}
  {thread : Thread} {store after : Store} {ops : List Op} {limit : Nat} {past : History}
  {task : Task} {failure : StoreError}

/-- What a thread has learned is still true of the store, as far as its transaction rests on it. -/
structure Store.Upholds (store : Store) (past : History) : Prop where
  alive : Environment.aliveAssertion.failure?
    (store.get? Layout.environments Layout.environmentKey) = none
  constraints : (store.get? Layout.constraints Layout.environmentKey).isSome = true
  fresh : ∀ id, past.Reserved id → ∀ place ∈ Machine.allPlaces id,
    store.get? place.1 place.2 = none
  hosts : ∀ id host, past.Found Machine.decode Layout.machines id host →
    (store.get? Layout.containerRefs id).isSome = true
  reports : ∀ id kinds, (store.get? Layout.machines id).isSome = true →
    (Machine.reportOp id kinds).assertion.failure? (store.get? Layout.machines id) = none

/-- Why a transaction is aborted though what its thread has learned still holds. -/
inductive Op.Conflict (store : Store) (past : History) (ops : List Op) : Prop where
  /-- The lists of state servers are not those that were read. -/
  | servers (machines : List Machine) (current : StateServers) (op : Op) (hmem : op ∈ ops)
      (hop : StateServers.addOp? machines current = some op) (hread : current.WereRead past)
      (hfailure : op.assertion.failure?
        (store.get? Layout.stateServers Layout.environmentKey) ≠ none)
  /-- There is no such machine. -/
  | report (id : String) (kinds : List ContainerType) (hmem : Machine.reportOp id kinds ∈ ops)
      (hmissing : store.get? Layout.machines id = none)

theorem Store.Op.eq_none_of_failure?_present {document : Option Value}
    (h : Assertion.failure? document .present ≠ none) : document = none := by
  cases document with
  | none => rfl
  | some value => exact absurd rfl h

namespace Store.Upholds

variable (hupholds : store.Upholds past)
  (hfailed : store.transact (Environment.checkAliveOp :: ops) = .error failure)
  (haborted : failure.isAborted = true)

include hupholds hfailed haborted

/-- A transaction for new machines is aborted over an operation that inserts nothing. -/
theorem exists_failure {ids : List String}
    (hplaces : (Op.places ops).Subperm (ids.flatMap Machine.allPlaces)) (hnodup : ids.Nodup)
    (hreserved : ∀ id ∈ ids, past.Reserved id) :
    ∃ op ∈ ops, ¬op.IsInsertion ∧
      op.assertion.failure? (store.get? op.collection op.id) ≠ none :=
  exists_failure_of_free hfailed haborted hupholds.alive hplaces hnodup fun id hid =>
    hupholds.fresh id (hreserved id hid)

theorem conflict_setConstraints {constraints : Constraints}
    (hops : ops = [Environment.replaceConstraintsOp constraints]) : False := by
  subst hops
  obtain ⟨op, hop, -, hfailure⟩ := hupholds.exists_failure hfailed haborted
    (List.nil_subperm : [].Subperm ([].flatMap Machine.allPlaces)) List.nodup_nil nofun
  rw [List.mem_singleton.mp hop] at hfailure
  have hmissing := Op.eq_none_of_failure?_present hfailure
  have hsome := hupholds.constraints
  rw [show store.get? Layout.constraints Layout.environmentKey = none from hmissing] at hsome
  cases hsome

theorem conflict_report {id : String} {kinds : List ContainerType}
    (hops : ops = [Machine.reportOp id kinds]) : Op.Conflict store past ops := by
  subst hops
  obtain ⟨op, hop, -, hfailure⟩ := hupholds.exists_failure hfailed haborted
    (List.nil_subperm : [].Subperm ([].flatMap Machine.allPlaces)) List.nodup_nil nofun
  rw [List.mem_singleton.mp hop] at hfailure
  refine .report id kinds List.mem_cons_self ?_
  by_contra hsome
  exact hfailure (hupholds.reports id kinds (Option.isSome_iff_ne_none.mpr hsome))

theorem conflict_roots {plans : List CreationPlan} {current : StateServers}
    (hplans : ∀ plan ∈ plans, ∃ raw, plan.IsRoot raw past)
    (hgrowth : (∀ plan ∈ plans, plan.machine.isStateServer = false) ∨ current.WereRead past)
    (hdistinct : (plans.map (·.machine.id)).Nodup)
    (hops : ops = plans.flatMap (·.ops) ++
      (StateServers.addOp? (plans.map (·.machine)) current).toList) :
    Op.Conflict store past ops := by
  subst hops
  have hroot := CreationPlan.exists_ofRoot hplans
  have hreserved : ∀ id ∈ plans.map (·.machine.id), past.Reserved id := by
    intro id hid
    obtain ⟨plan, hplan, rfl⟩ := List.mem_map.mp hid
    obtain ⟨raw, template, number, -, hdrew, rfl⟩ := hplans plan hplan
    exact History.reserved_root hdrew
  obtain ⟨op, hop, hinsert, hfailure⟩ := hupholds.exists_failure hfailed haborted
    (CreationPlan.places_roots_sublist hroot current).subperm hdistinct hreserved
  rcases List.mem_append.mp hop with hplanned | hserver
  · obtain ⟨plan, hplan, hmem⟩ := List.mem_flatMap.mp hplanned
    obtain ⟨template, number, rfl⟩ := hroot plan hplan
    exact absurd (CreationPlan.isInsertion_of_mem_ofRoot hmem) hinsert
  · have hadd := Option.mem_toList.mp hserver
    obtain ⟨hcollection, hid, -, -⟩ := StateServers.addOp?_eq_some hadd
    rw [hcollection, hid] at hfailure
    rcases hgrowth with hnone | hread
    · have hplain : StateServers.addOp? (plans.map (·.machine)) current = none :=
        StateServers.addOp?_eq_none_iff.mpr (by simpa using hnone)
      rw [hplain] at hadd
      cases hadd
    · exact .servers _ current op hop hadd hread hfailure

theorem conflict_inside {template : Template} {parent : String} {kind : ContainerType}
    {number : Nat} {host : Machine}
    (hhost : past.Found Machine.decode Layout.machines parent host)
    (hnumber : past.Drew (MachineId.containerCounter parent kind) number)
    (hops : ops = (CreationPlan.ofInside template parent kind
      (MachineId.container parent kind number)).ops) : False := by
  subst hops
  have hplaces := CreationPlan.places_ofInside_sublist template parent kind
    (MachineId.container parent kind number)
  have hreserved : ∀ id ∈ [MachineId.container parent kind number], past.Reserved id := by
    simpa using History.reserved_container hnumber
  obtain ⟨op, hop, hinsert, hfailure⟩ := hupholds.exists_failure hfailed haborted
    (by simpa using hplaces.subperm) (List.nodup_singleton _) hreserved
  rcases List.mem_append.mp hop with hop | hop
  · exact hinsert (Machine.isInsertion_of_mem_insertOps hop)
  · simp only [List.mem_cons, List.not_mem_nil, or_false] at hop
    rcases hop with rfl | rfl
    · have hmissing := Op.eq_none_of_failure?_present hfailure
      have hsome := hupholds.hosts parent host hhost
      rw [show store.get? Layout.containerRefs parent = none from hmissing] at hsome
      cases hsome
    · exact hinsert ⟨_, _, _, rfl⟩

theorem conflict_insideNew {template parentTemplate : Template} {kind : ContainerType}
    {parentNumber number : Nat} (hparent : past.Drew MachineId.rootCounter parentNumber)
    (hnumber : past.Drew (MachineId.containerCounter (MachineId.root parentNumber) kind) number)
    (hops : ops = (CreationPlan.ofInsideNew template parentTemplate kind
      (MachineId.root parentNumber)
      (MachineId.container (MachineId.root parentNumber) kind number)).ops) : False := by
  subst hops
  have hne := MachineId.container_ne_parent (MachineId.root parentNumber) kind number
  have hreserved : ∀ id ∈ [MachineId.root parentNumber,
      MachineId.container (MachineId.root parentNumber) kind number], past.Reserved id := by
    simp only [List.forall_mem_cons]
    exact ⟨History.reserved_root hparent, History.reserved_container hnumber, nofun⟩
  obtain ⟨op, hop, hinsert, -⟩ := hupholds.exists_failure hfailed haborted
    (CreationPlan.places_ofInsideNew_subperm template parentTemplate kind _ _)
    (by simpa using hne.symm) hreserved
  exact hinsert (CreationPlan.isInsertion_of_mem_ofInsideNew hop)

end Store.Upholds

/-- A transaction that begins with the check of the environment conflicts over the lists of state
servers or over a machine that does not exist, or over nothing. -/
theorem Submission.conflict (h : Submission limit past (Environment.checkAliveOp :: ops))
    (hupholds : store.Upholds past)
    (hdistinct : ((Op.inserted Layout.machines (Environment.checkAliveOp :: ops)).map (·.1)).Nodup)
    (hfailed : store.transact (Environment.checkAliveOp :: ops) = .error failure)
    (haborted : failure.isAborted = true) : Op.Conflict store past ops := by
  generalize hall : Environment.checkAliveOp :: ops = all at h
  cases h with
  | establish uuid constraints =>
    obtain ⟨hfirst, -⟩ := List.cons.inj hall
    exact absurd (congrArg Op.effect hfirst) nofun
  | destroy =>
    obtain ⟨hfirst, -⟩ := List.cons.inj hall
    exact absurd (congrArg Op.effect hfirst) nofun
  | setConstraints constraints =>
    have hops := (List.cons.inj hall).2
    exact (hupholds.conflict_setConstraints hfailed haborted hops).elim
  | report id kinds =>
    have hops := (List.cons.inj hall).2
    exact hupholds.conflict_report hfailed haborted hops
  | roots plans current hplans hgrowth =>
    have hops := (List.cons.inj hall).2
    have hbatch := CreationPlan.batch_of_roots (CreationPlan.exists_ofRoot hplans) current
    have halive : Environment.checkAliveOp.collection ≠ Layout.machines := by decide
    have hids : (plans.map (·.machine.id)).Nodup := by
      rw [Op.inserted_cons_of_ne halive, hops, hbatch.inserted_eq, List.map_map,
        List.map_map] at hdistinct
      exact hdistinct
    have hread : (∀ plan ∈ plans, plan.machine.isStateServer = false) ∨ current.WereRead past :=
      hgrowth.imp_right (·.1)
    exact hupholds.conflict_roots hfailed haborted hplans hread hids hops
  | inside raw template parent kind number host haccepted hinstance hkind hhost hsupports hnumber =>
    have hops := (List.cons.inj hall).2
    exact (hupholds.conflict_inside hfailed haborted hhost hnumber hops).elim
  | insideNew raw template rawParent parentTemplate kind parentNumber number haccepted hparent
      hinstance hparentInstance hkind hparentNumber hnumber =>
    have hops := (List.cons.inj hall).2
    exact (hupholds.conflict_insideNew hfailed haborted hparentNumber hnumber hops).elim

/-! ## What is learned stays true -/

theorem Reachable.isSome_machines_of_found (h : Reachable world) (hthread : thread ∈ world.threads)
    {id : String} {machine : Machine}
    (hfound : thread.past.Found Machine.decode Layout.machines id machine) :
    (world.store.get? Layout.machines id).isSome = true := by
  obtain ⟨events, hrun⟩ := h
  obtain ⟨document, hmem, -⟩ := hfound
  obtain ⟨index, hindex⟩ := List.getElem?_of_mem hthread
  obtain ⟨past, before, after, found, left, hoccurs, -⟩ := hrun.exists_exchange_of_mem hindex hmem
  have hcounters : Layout.machines ≠ Layout.sequence := by decide
  have hreachable : Reachable found := ⟨before, hoccurs.earlier⟩
  have hsome : (found.store.get? Layout.machines id).isSome = true :=
    Option.isSome_of_eq_some hoccurs.step.answers.get?_eq.1
  exact (Run.cons hoccurs.step hoccurs.later).isSome_get? hreachable hcounters hsome

/-- As long as the environment is alive and a thread has submitted nothing, what it has learned is
still true. -/
theorem Run.upholds (hrun : Run .initial events world)
    (hthread : world.threads[index]? = some thread) (hquiet : thread.past.submissions = [])
    (hlife : world.store.life? = some .alive) : world.store.Upholds thread.past := by
  have hreachable : Reachable world := ⟨events, hrun⟩
  obtain ⟨environment?, hgoverned⟩ := hreachable.governed
  rw [hgoverned.life?_eq] at hlife
  obtain ⟨environment, rfl, halive⟩ := Option.map_eq_some_iff.mp hlife
  refine ⟨?_, hgoverned.constraints, ?_, ?_, ?_⟩
  · rw [hgoverned.document, Option.map_some, Environment.failure?_aliveAssertion, if_pos halive]
  · intro id hreserved place hplace
    rw [← World.pastOf_eq hthread] at hquiet hreserved
    exact hreachable.get?_eq_none (hrun.get?_eq_none_of_reserved hquiet hreserved) hplace
  · intro id host hfound
    rw [hreachable.isSome_containerRefs]
    exact hreachable.isSome_machines_of_found (List.mem_of_getElem? hthread) hfound
  · intro id kinds hsome
    cases hreachable.accounts id with
    | absent hnone =>
      have hmachine : world.store.get? Layout.machines id = none :=
        hnone (Layout.machines, id) List.mem_cons_self
      rw [hmachine] at hsome
      cases hsome
    | present machine constraints hardware hmachine hmachineLife _ _ _ _ _ =>
      rw [hmachine]
      have hnotDead : machine.life ≠ .dead := by
        rw [hmachineLife]
        decide
      exact Machine.failure?_reportOp_of_ne hnotDead id kinds

end ControlPlane
