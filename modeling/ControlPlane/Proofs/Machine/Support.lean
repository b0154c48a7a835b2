import ControlPlane.Proofs.Run.AppendOnly

/-!
# Hosts that support their containers

Whether a host supports a container is looked up before the container gets its
id, and the transaction asserts no more of the host than that it has a list of
containers.  A report of what the host supports that comes in between is
overlooked.  This is the only way in which a host can have come not to support
a container that is created on it.
-/

namespace ControlPlane

open Json Store

/-- There is a machine with an id, and it may host containers of a kind. -/
def Store.supports (store : Store) (id : String) (kind : ContainerType) : Bool :=
  (store.machine? id).any (·.supports kind)

theorem Machine.supports_iff (machine : Machine) (kind : ContainerType) :
    machine.supports kind = true ↔
      machine.supportedContainersKnown = false ∨ kind ∈ machine.supportedContainers := by
  rw [supports, Bool.or_eq_true, Bool.not_eq_true', List.contains_iff_mem]

theorem Machine.supports_reporting (machine : Machine) (kinds : List ContainerType)
    (kind : ContainerType) : (machine.reporting kinds).supports kind = true ↔ kind ∈ kinds := by
  change (false || (ContainerType.ascending kinds).contains kind) = true ↔ _
  rw [Bool.false_or, List.contains_iff_mem, ContainerType.mem_ascending]

theorem Store.supports_of_get? {store : Store} {id : String} {machine : Machine}
    (h : store.get? Layout.machines id = some machine.toValue) (kind : ContainerType) :
    store.supports id kind = machine.supports kind := by
  rw [supports, machine?_of_get? h]
  rfl

variable {world later : World} {event : Event} {events : List Event} {id : String}
  {kind : ContainerType} {ops : List Op}

/-- A document of a machine is changed only by a report of what the machine supports. -/
theorem World.Commits.reports {thread : Thread} {document : Value}
    (h : world.Commits thread ops later) (hreachable : Reachable world)
    (hget : world.store.get? Layout.machines id = some document)
    (hchange : later.store.get? Layout.machines id ≠ some document) :
    ∃ kinds, ops = [Environment.checkAliveOp, Machine.reportOp id kinds] := by
  obtain ⟨-, hsubmits⟩ := h.submits hreachable
  obtain ⟨-, -, hcommit⟩ := h.cases
  by_contra hnone
  apply hchange
  apply get?_eq_of_kept (transact_eq_ok_iff.mp hcommit).2 hget
  intro op hop hnames
  refine ⟨(h.submission hreachable).effect_ne_remove op hop, fun hupdate => hnone ?_⟩
  obtain ⟨hcollection, rfl⟩ := Op.names_iff.mp hnames
  obtain ⟨controller, kinds, htask⟩ := hsubmits.fits.report op hop hcollection hupdate
  rw [htask] at hsubmits
  cases hsubmits with
  | request hsubmits =>
    cases hsubmits with
    | setSupportedContainers => exact ⟨kinds, rfl⟩

/-- After a report a machine supports what has been reported. -/
theorem Store.get?_of_report {store after : Store} {machine : Machine}
    {kinds : List ContainerType} (hget : store.get? Layout.machines id = some machine.toValue)
    (hcommit : store.transact [Environment.checkAliveOp, Machine.reportOp id kinds] = .ok after) :
    after.get? Layout.machines id = some (machine.reporting kinds).toValue := by
  have hfold := foldlM_effects_eq_ok (transact_eq_ok_iff.mp hcommit).2 Layout.machines id
  have hreport : (Machine.reportOp id kinds).names Layout.machines id = true :=
    Op.names_iff.mpr ⟨rfl, rfl⟩
  rw [List.filter_cons_of_neg (Op.not_names_of_collection_ne (by decide) id),
    List.filter_cons_of_pos hreport, List.filter_nil, foldlM_effects_singleton, hget,
    machine.apply_reportOp] at hfold
  exact (Except.ok.inj hfold).symm

/-- A machine comes not to support a kind of container only by a report that leaves it out. -/
theorem Step.reported_of_not_supports (h : Step world event later) (hreachable : Reachable world)
    (hbefore : world.store.supports id kind = true)
    (hafter : later.store.supports id kind = false) :
    ∃ index kinds, kind ∉ kinds ∧ event = .exchanged index
      ⟨.transact [Environment.checkAliveOp, Machine.reportOp id kinds], .ok ()⟩ := by
  obtain ⟨records, hholds, -⟩ := hreachable.holds
  obtain ⟨machine, hmachine, hsupports⟩ := (Option.any_eq_true _ _).mp hbefore
  have hget : world.store.get? Layout.machines id = some machine.toValue := by
    rw [hholds.machine?_eq] at hmachine
    rw [hholds.machine, hmachine]
    rfl
  have hchange : later.store.get? Layout.machines id ≠ some machine.toValue := by
    intro hsame
    rw [Store.supports_of_get? hsame, hsupports] at hafter
    cases hafter
  rcases h.unchanged_or_commit hreachable.conducted with
    hsame | ⟨index, thread, ops, hthread, rfl, -, hcommit⟩
  · exact absurd ((hsame Layout.machines (by decide) id).trans hget) hchange
  · have hcommits : world.Commits thread ops later := ⟨index, hthread, h⟩
    obtain ⟨kinds, rfl⟩ := hcommits.reports hreachable hget hchange
    refine ⟨index, kinds, fun hkind => ?_, rfl⟩
    rw [Store.supports_of_get? (Store.get?_of_report hget hcommit),
      (machine.supports_reporting kinds kind).mpr hkind] at hafter
    cases hafter

/-- In a run a machine comes not to support a kind of container only by a report that leaves it
out. -/
theorem Run.reported_of_not_supports (hrun : Run world events later) (hreachable : Reachable world)
    (hfirst : world.store.supports id kind = true) (hlast : later.store.supports id kind ≠ true) :
    ∃ before after index kinds, kind ∉ kinds ∧ events = before ++ .exchanged index
      ⟨.transact [Environment.checkAliveOp, Machine.reportOp id kinds], .ok ()⟩ :: after := by
  obtain ⟨before, event, after, middle, next, hmiddle, hstep, -, rfl, hkept, hlost⟩ :=
    hrun.exists_change (·.store.supports id kind) (hfirst.trans_ne hlast.symm)
  rw [hfirst] at hkept hlost
  obtain ⟨index, kinds, hkind, rfl⟩ := hstep.reported_of_not_supports
    (hreachable.run hmiddle) hkept (Bool.eq_false_iff.mpr hlost)
  exact ⟨before, after, index, kinds, hkind, rfl⟩

/-- A container that is created on a host was supported by the host when it was looked up, and is
so still, unless a report that leaves it out has been made in between. -/
theorem supported_unless_reported_since {index : Nat} {controller : Controller} {raw : Template}
    {parent : String} {past : History}
    {rest : Session (Except Error (Request.addInside raw parent kind).Result)}
    (hrun : Run .initial events world)
    (hthread : world.threads[index]? =
      some ⟨.request controller (.addInside raw parent kind), past, rest⟩)
    (hstep : Step world (.exchanged index ⟨.transact ops, .ok ()⟩) later) :
    ∃ host machine : Machine, host.supports kind = true ∧ host.Continues machine ∧
      world.store.machine? parent = some machine ∧
      ∃ before after, events = before ++
          .exchanged index ⟨.get Layout.machines parent, .ok (some host.toValue)⟩ :: after ∧
        (machine.supports kind = true ∨
          ∃ between rest reporter kinds, kind ∉ kinds ∧ after = between ++ .exchanged reporter
            ⟨.transact [Environment.checkAliveOp, Machine.reportOp parent kinds], .ok ()⟩ ::
              rest) := by
  have hcommits : world.Commits _ ops later := ⟨index, hthread, hstep⟩
  obtain ⟨-, hsubmits⟩ := hcommits.submits ⟨events, hrun⟩
  cases hsubmits with
  | request hsubmits =>
    cases hsubmits with
    | @addInside _ template _ _ number host _ hplan =>
      obtain ⟨document, hread, hdecode⟩ := hplan.found
      obtain ⟨asked, before, after, found, left, hoccurs, rfl⟩ :=
        hrun.exists_exchange_of_mem hthread hread
      have hleft : Reachable left := Reachable.step ⟨before, hoccurs.earlier⟩ hoccurs.step
      -- The document that was read was the one of the host at that moment.
      obtain ⟨hget, hsame⟩ := hoccurs.step.answers.get?_eq
      rw [← hsame] at hget
      obtain ⟨same, machine, rfl, hlater, hcontinues⟩ :=
        (hoccurs.later.extends_store hleft).machine parent document hget
      rw [same.decode_toValue] at hdecode
      obtain rfl := Except.ok.inj hdecode
      refine ⟨same, machine, hplan.supports, hcontinues, machine?_of_get? hlater, before, after,
        rfl, ?_⟩
      by_cases hsupports : machine.supports kind = true
      · exact .inl hsupports
      · have hfirst : left.store.supports parent kind = true :=
          (supports_of_get? hget kind).trans hplan.supports
        have hlast : world.store.supports parent kind ≠ true := by
          rwa [supports_of_get? hlater]
        obtain ⟨between, remaining, reporter, kinds, hkind, rfl⟩ :=
          hoccurs.later.reported_of_not_supports hleft hfirst hlast
        exact .inr ⟨between, remaining, reporter, kinds, hkind, rfl⟩

namespace World

/-- An environment with one machine, which has not reported what it supports. -/
def hosting : World :=
  founded.perform none (.request usual (.addMachine { series := "jammy", jobs := [.hostUnits] }))

/-- A world in which a container is about to be created on a machine that has meanwhile reported
that it supports others only. -/
def narrowed : World :=
  (hosting.prepare none (.request usual (.addInside
    { series := "jammy", jobs := [.hostUnits] } "0" .lxc))).perform none
      (.request usual (.setSupportedContainers "0" [.kvm]))

theorem reachable_narrowed : Reachable narrowed := by
  have hhosting : ∀ asked, hosting.Permits (.request usual asked) := fun asked =>
    (permits_founded asked).carry none _ _
  unfold narrowed perform prepare
  apply Reachable.carry
  · apply Reachable.carry
    · unfold hosting perform
      exact reachable_founded.carry _ none _ (permits_founded _)
    · exact hhosting _
  · exact (hhosting _).carry none _ _

theorem supports_narrowed : narrowed.store.supports "0" .lxc = false := by
  decide +kernel

/-- The container is created all the same. -/
theorem exists_step_narrowed :
    ∃ past rest ops later,
      narrowed.threads[2]? = some ⟨.request usual (.addInside
        { series := "jammy", jobs := [.hostUnits] } "0" .lxc), past, rest⟩ ∧
      Step narrowed (.exchanged 2 ⟨.transact ops, .ok ()⟩) later := by
  have hready : narrowed.threads[2]?.any (·.isReady narrowed.store fun _ => true) = true := by
    decide +kernel
  obtain ⟨thread, ops, later, -, hthread, hstep, -⟩ := step_of_isReady hready
  have hplanned := getElem?_carry hosting none Call.isTransact
    (.request usual (.addInside { series := "jammy", jobs := [.hostUnits] } "0" .lxc))
  have hnarrowed := getElem?_carry_of_some hplanned none (fun _ => false)
    (.request usual (.setSupportedContainers "0" [.kvm]))
  exact ⟨_, _, ops, later, hnarrowed, hstep⟩

end World

/-- In the narrowed world the host has reported that it supports others only, since it was looked
up. -/
theorem supported_unless_reported_since_narrowed :
    ∃ (events : List Event) (reporter : Nat) (kinds : List ContainerType),
      Run .initial events World.narrowed ∧ .lxc ∉ kinds ∧
        .exchanged reporter
          ⟨.transact [Environment.checkAliveOp, Machine.reportOp "0" kinds], .ok ()⟩ ∈ events := by
  obtain ⟨events, hrun⟩ := World.reachable_narrowed
  obtain ⟨past, rest, ops, later, hthread, hstep⟩ := World.exists_step_narrowed
  obtain ⟨host, machine, -, -, hmachine, before, after, rfl, hsupports | hreported⟩ :=
    supported_unless_reported_since hrun hthread hstep
  · have hnarrow := World.supports_narrowed
    rw [Store.supports, hmachine] at hnarrow
    exact absurd (hsupports.symm.trans hnarrow) (by decide)
  · obtain ⟨between, remaining, reporter, kinds, hkind, rfl⟩ := hreported
    exact ⟨_, reporter, kinds, hrun, hkind, by simp⟩

/-- A host need not support the container that is created on it. -/
theorem not_always_supported :
    ¬∀ {world later : World} {index : Nat} {controller : Controller} {raw : Template}
      {parent : String} {kind : ContainerType} {past : History}
      {rest : Session (Except Error (Request.addInside raw parent kind).Result)} {ops : List Op},
      Reachable world →
      world.threads[index]? =
        some ⟨.request controller (.addInside raw parent kind), past, rest⟩ →
      Step world (.exchanged index ⟨.transact ops, .ok ()⟩) later →
      ∃ machine, world.store.machine? parent = some machine ∧
        (machine.supportedContainersKnown = false ∨ kind ∈ machine.supportedContainers) := by
  intro halways
  obtain ⟨past, rest, ops, later, hthread, hstep⟩ := World.exists_step_narrowed
  obtain ⟨machine, hmachine, hsupports⟩ := halways World.reachable_narrowed hthread hstep
  have hnarrow := World.supports_narrowed
  rw [Store.supports, hmachine] at hnarrow
  exact absurd (((machine.supports_iff _).mpr hsupports).symm.trans hnarrow) (by decide)

end ControlPlane
