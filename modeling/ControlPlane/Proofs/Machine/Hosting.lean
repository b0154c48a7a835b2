import ControlPlane.Proofs.Machine.Support
import ControlPlane.Proofs.Undisturbed.Containers

/-!
# Containers are added on request

A container is refused for one of several reasons, of which the first that
stands is told, and nothing has been drawn or written by then.  Otherwise it is
added with the next number of its kind on its host, and everything but the list
of the host and the counter stays as it was.
-/

namespace ControlPlane

open Json Store

/-! ## Reasons to refuse a container -/

/-- Why a container is not put on a machine that exists.  A reason is told where none before it
stands. -/
inductive Store.RefusesInside (store : Store) (defaults : Constraints) (raw : Template)
    (parent : String) (kind : ContainerType) : Error → Prop
  | known (hinstance : raw.knownInstance?.isSome = true) :
      RefusesInside store defaults raw parent kind
        (.invalidRequest "cannot specify instance id for a new container")
  | invalid {error : Error} (hinstance : raw.knownInstance? = none)
      (hinvalid : raw.validate defaults false = .error error) :
      RefusesInside store defaults raw parent kind error
  | unnamed {template : Template} (hinstance : raw.knownInstance? = none)
      (hvalid : raw.validate defaults false = .ok template) (hkind : kind = .noContainer) :
      RefusesInside store defaults raw parent kind (.invalidRequest "no container type specified")
  | missing {template : Template} (hinstance : raw.knownInstance? = none)
      (hvalid : raw.validate defaults false = .ok template) (hkind : kind ≠ .noContainer)
      (hhost : store.machine? parent = none) :
      RefusesInside store defaults raw parent kind (.objectNotFound .machine (.ofKey parent))
  | unsupported {template : Template} {host : Machine} {kinds : List ContainerType}
      (hinstance : raw.knownInstance? = none)
      (hvalid : raw.validate defaults false = .ok template) (hkind : kind ≠ .noContainer)
      (hhost : store.machine? parent = some host)
      (hreported : host.reportedContainers? = some kinds) (hnot : kind ∉ kinds) :
      RefusesInside store defaults raw parent kind (.unsupportedContainer parent kind.word)

/-- Why a container and its host are not added together, with the memory of the policy afterwards.
A reason is told where none before it stands. -/
inductive Advisor.RefusesInsideNew {μ : Type} (advisor : Advisor μ) (defaults : Constraints)
    (raw rawParent : Template) (kind : ContainerType) (memory : μ) : Error → μ → Prop
  | known (hinstance : raw.knownInstance?.isSome = true ∨ rawParent.knownInstance?.isSome = true) :
      RefusesInsideNew advisor defaults raw rawParent kind memory
        (.invalidRequest "cannot specify instance id for a new container") memory
  | invalidHost {error : Error}
      (hinstance : raw.knownInstance? = none ∧ rawParent.knownInstance? = none)
      (hinvalid : rawParent.validate defaults false = .error error) :
      RefusesInsideNew advisor defaults raw rawParent kind memory error memory
  | unnamed {parentTemplate : Template}
      (hinstance : raw.knownInstance? = none ∧ rawParent.knownInstance? = none)
      (hparent : rawParent.validate defaults false = .ok parentTemplate)
      (hkind : kind = .noContainer) :
      RefusesInsideNew advisor defaults raw rawParent kind memory
        (.invalidRequest "no container type specified") memory
  | invalid {parentTemplate : Template} {error : Error}
      (hinstance : raw.knownInstance? = none ∧ rawParent.knownInstance? = none)
      (hparent : rawParent.validate defaults false = .ok parentTemplate)
      (hkind : kind ≠ .noContainer) (hinvalid : raw.validate defaults false = .error error) :
      RefusesInsideNew advisor defaults raw rawParent kind memory error memory
  | rejected {parentTemplate template : Template} {error : Error} {memory' : μ}
      (hinstance : raw.knownInstance? = none ∧ rawParent.knownInstance? = none)
      (hparent : rawParent.validate defaults false = .ok parentTemplate)
      (hkind : kind ≠ .noContainer) (hvalid : raw.validate defaults false = .ok template)
      (hjudged : advisor.judge rawParent.series
          { rawParent.constraints.withFallbacks defaults with container := none } memory =
        (.error error, memory')) :
      RefusesInsideNew advisor defaults raw rawParent kind memory error memory'

namespace Template

variable {raw : Template} {defaults : Constraints}

theorem reads_refuseInstance (store : Store) (raw : Template) (h : raw.knownInstance? = none) :
    store.Reads (liftM raw.refuseInstance) (.ok ()) := by
  rw [refuseInstance, h]
  exact .lift _

theorem reads_refuseInstance_error (store : Store) (h : raw.knownInstance?.isSome = true) :
    store.Reads (liftM raw.refuseInstance)
      (.error (.invalidRequest "cannot specify instance id for a new container")) := by
  rw [refuseInstance, if_pos h]
  exact .lift _

/-- A template for a state server is not permitted where none is allowed, whatever else would be
wrong with its instance. -/
theorem validate_manageEnviron (hseries : raw.series ≠ "")
    (hrepeated : Job.firstRepeated? raw.jobs = none) (hjob : Job.manageEnviron ∈ raw.jobs)
    (defaults : Constraints) :
    raw.validate defaults false =
      .error (.permissionDenied "manage_environ specified but not allowed") := by
  have hnonempty : raw.series.isEmpty = false := by simpa using hseries
  have hjobs : raw.jobs.isEmpty = false := by
    rw [List.isEmpty_eq_false_iff]
    exact List.ne_nil_of_mem hjob
  unfold validate
  rw [hnonempty, hjobs, hrepeated, List.contains_iff_mem.mpr hjob]
  rfl

end Template

theorem CreationPlan.reads_requireContainer (store : Store) (kind : ContainerType)
    (h : kind ≠ .noContainer) : store.Reads (liftM (requireContainer kind)) (.ok ()) := by
  rw [requireContainer, if_neg h]
  exact .lift _

theorem CreationPlan.reads_requireContainer_error (store : Store) {kind : ContainerType}
    (h : kind = .noContainer) :
    store.Reads (liftM (requireContainer kind))
      (.error (.invalidRequest "no container type specified")) := by
  rw [requireContainer, if_pos h]
  exact .lift _

theorem Machine.supports_eq_false_iff {machine : Machine} {kind : ContainerType} :
    machine.supports kind = false ↔
      ∃ kinds, machine.reportedContainers? = some kinds ∧ kind ∉ kinds := by
  rw [reportedContainers?, ← Bool.not_eq_true, supports_iff]
  cases machine.supportedContainersKnown <;> simp

/-! ## On a machine that exists -/

/-- What there is after a container has been added to a machine: its records, its id at the end of
the list of its host, and everything else as it was but for the counter. -/
structure Store.GainsContainer (store after : Store) (defaults : Constraints) (raw : Template)
    (parent : String) (kind : ContainerType) (id : String) : Prop where
  tells : after.Tells (raw.asked id (some kind))
    { raw.constraints.withFallbacks defaults with container := none } (raw.hardware.getD {}) []
  listed : ∃ siblings, store.Reads (Machine.containers parent) (.ok siblings) ∧
    after.Reads (Machine.containers parent) (.ok (siblings ++ [id]))
  count : after.count (MachineId.containerCounter parent kind) =
    store.count (MachineId.containerCounter parent kind) + 1
  same : ∀ collection key,
    (collection, key) ≠ (Layout.sequence, MachineId.containerCounter parent kind) →
    (collection, key) ≠ (Layout.containerRefs, parent) →
    (collection, key) ∉ Machine.allPlaces id → after.get? collection key = store.get? collection key

namespace Store.Regular

variable {μ : Type} {store : Store} {environment : Environment} {records : Records}
  {defaults : Constraints} {raw : Template} {parent : String} {kind : ContainerType}

/-- A container that is refused has cost nothing. -/
theorem reads_inside_error {error : Error} (h : store.Regular environment records)
    (hdefaults : store.constraints? = some defaults)
    (hrefuses : store.RefusesInside defaults raw parent kind error) :
    store.Reads (CreationPlan.inside raw parent kind) (.error error) := by
  have heffective := Template.reads_effective hdefaults raw false
  have hrefuse := Template.reads_refuseInstance store raw
  have hrequire := CreationPlan.reads_requireContainer store kind
  unfold CreationPlan.inside
  cases hrefuses with
  | known hinstance => exact (Template.reads_refuseInstance_error store hinstance).bind_error
  | invalid hinstance hinvalid =>
    rw [hinvalid] at heffective
    exact (hrefuse hinstance).bind heffective.bind_error
  | unnamed hinstance hvalid hkind =>
    rw [hvalid] at heffective
    exact (hrefuse hinstance).bind
      (heffective.bind (CreationPlan.reads_requireContainer_error store hkind).bind_error)
  | missing hinstance hvalid hkind hhost =>
    rw [hvalid] at heffective
    rw [h.holds.machine?_eq] at hhost
    exact (hrefuse hinstance).bind (heffective.bind
      ((hrequire hkind).bind (h.holds.reads_machine_none hhost).bind_error))
  | unsupported hinstance hvalid hkind hhost hreported hnot =>
    rw [hvalid] at heffective
    rw [h.holds.machine?_eq] at hhost
    refine (hrefuse hinstance).bind (heffective.bind ((hrequire hkind).bind
      ((h.holds.reads_machine hhost).bind ?_)))
    rw [Machine.supports_eq_false_iff.mpr ⟨_, hreported, hnot⟩]
    exact .bind_error (.throw _)

/-- A container that is not refused gets the next number of its kind on its host. -/
theorem perform_inside (h : store.Regular environment records)
    (hdefaults : store.constraints? = some defaults)
    (haccepted : ∀ error, ¬store.RefusesInside defaults raw parent kind error) (advisor : Advisor μ)
    (memory : μ) :
    (records.machine? parent).isSome = true ∧ ∃ drawn,
      advisor.perform (CreationPlan.inside raw parent kind) (store, memory) =
          (.ok (.ofInside (raw.normalised defaults) parent kind (MachineId.container parent kind
            (store.count (MachineId.containerCounter parent kind)))), drawn, memory) ∧
        store.Draws drawn (MachineId.containerCounter parent kind) 1 ∧ drawn.Formed := by
  have hinstance : raw.knownInstance? = none := by
    by_contra hknown
    exact haccepted _ (.known (Option.isSome_iff_ne_none.mpr hknown))
  cases hvalid : raw.validate defaults false with
  | error error => exact absurd (.invalid hinstance hvalid) (haccepted error)
  | ok template =>
    have hkind : kind ≠ .noContainer := fun hkind =>
      haccepted _ (.unnamed hinstance hvalid hkind)
    cases hhost : records.machine? parent with
    | none =>
      have hmissing := (h.holds.machine?_eq parent).trans hhost
      exact absurd (.missing hinstance hvalid hkind hmissing) (haccepted _)
    | some host =>
      have hfound := (h.holds.machine?_eq parent).trans hhost
      have hsupports : host.supports kind = true := by
        by_contra hnot
        obtain ⟨kinds, hreported, hkinds⟩ :=
          Machine.supports_eq_false_iff.mp (Bool.eq_false_iff.mpr hnot)
        exact haccepted _ (.unsupported hinstance hvalid hkind hfound hreported hkinds)
      obtain ⟨drawn, hnext, hdraws⟩ :=
        CreationPlan.perform_nextContainer h.formed parent kind advisor memory
      refine ⟨rfl, drawn, ?_, hdraws⟩
      have heffective := (Template.reads_effective hdefaults raw false).perform_eq advisor memory
      have hfetch := (h.holds.reads_machine hhost).perform_eq advisor memory
      rw [hvalid, Template.eq_normalised_of_validate hvalid] at heffective
      have hrefuse := (Template.reads_refuseInstance store _ hinstance).perform_eq advisor memory
      have hrequire := (CreationPlan.reads_requireContainer store _ hkind).perform_eq advisor memory
      unfold CreationPlan.inside
      rw [Advisor.perform_bind_ok hrefuse, Advisor.perform_bind_ok heffective,
        Advisor.perform_bind_ok hrequire, Advisor.perform_bind_ok hfetch, hsupports]
      exact Advisor.perform_bind_ok hnext

theorem perform_addInside (h : store.Regular environment records)
    (halive : environment.life = .alive) (hdefaults : store.constraints? = some defaults)
    (haccepted : ∀ error, ¬store.RefusesInside defaults raw parent kind error) (advisor : Advisor μ)
    (memory : μ) :
    ∃ after id, id = MachineId.container parent kind
        (store.count (MachineId.containerCounter parent kind)) ∧
      advisor.perform (Machine.addInside raw parent kind) (store, memory) =
        (.ok (raw.asked id (some kind)), after, memory) ∧
      store.GainsContainer after defaults raw parent kind id := by
  obtain ⟨hhost, drawn, hplan, hdraws, hformed⟩ :=
    h.perform_inside hdefaults haccepted advisor memory
  have hdrawn := h.draws hdraws hformed
  rw [← h.paired] at hhost
  obtain ⟨siblings, hsiblings⟩ := Option.isSome_iff_exists.mp hhost
  have hfree := hdraws.free (h.free (.inr ⟨parent, kind, rfl, rfl⟩) (Nat.le_refl _))
  obtain ⟨after, hcommit⟩ := CreationPlan.exists_transact_inside hfree hdrawn hsiblings
    (raw.normalised defaults) halive
  obtain ⟨hregisters, hlisted⟩ :=
    CreationPlan.registers_inside hfree hdrawn hsiblings hcommit
  rw [Template.machine_normalised] at hregisters
  refine ⟨after, _, rfl, ?_, hregisters.tells, ⟨siblings, ?_, ?_⟩, ?_, ?_⟩
  · have hchecked := (h.governed.reads_requireAlive halive).perform_eq advisor memory
    have hcommitted := hdrawn.governed.perform_commit halive hcommit advisor memory
    unfold Machine.addInside
    rw [Advisor.perform_bind_ok hchecked, Advisor.perform_bind_ok hplan,
      Advisor.perform_bind_ok hcommitted, ← Template.machine_normalised raw defaults]
    rfl
  · exact h.holds.reads_containers hsiblings
  · exact (Procedure.reads_fetch_some .containerRef hlisted (ContainerRef.decode_toValue _)).map
  · have hrefs : Layout.sequence ≠ Layout.containerRefs := by decide
    have hown : Layout.sequence ∉ Layout.containerRefs :: Machine.ownCollections := by decide
    rw [← hdraws.count]
    apply count_congr
    apply CreationPlan.get?_eq_inside hcommit
    · exact fun hmem => hown (Machine.fst_mem_of_mem_allPlaces hmem)
    · exact fun heq => hrefs (congrArg Prod.fst heq)
  · intro collection key hcounter hparent hplace
    rw [CreationPlan.get?_eq_inside hcommit hplace hparent]
    exact hdraws.same collection key fun ⟨hcollection, hkey⟩ => hcounter (Prod.ext hcollection hkey)

end Store.Regular

/-! ## Together with a new root machine -/

/-- What there is after a container and its host have been added: the records of both, and
everything else as it was but for the two counters. -/
structure Store.GainsHosted (store after : Store) (defaults : Constraints)
    (raw rawParent : Template) (kind : ContainerType) (parentId id : String) : Prop where
  parent : after.Tells (rawParent.asked parentId none)
    { rawParent.constraints.withFallbacks defaults with container := none }
    (rawParent.hardware.getD {}) [id]
  container : after.Tells (raw.asked id (some kind))
    { raw.constraints.withFallbacks defaults with container := none } (raw.hardware.getD {}) []
  rootCount : after.count MachineId.rootCounter = store.count MachineId.rootCounter + 1
  count : after.count (MachineId.containerCounter parentId kind) =
    store.count (MachineId.containerCounter parentId kind) + 1
  same : ∀ collection key, (collection, key) ≠ (Layout.sequence, MachineId.rootCounter) →
    (collection, key) ≠ (Layout.sequence, MachineId.containerCounter parentId kind) →
    (collection, key) ∉ Machine.allPlaces parentId → (collection, key) ∉ Machine.allPlaces id →
    after.get? collection key = store.get? collection key

namespace Store.Regular

variable {μ : Type} {advisor : Advisor μ} {memory memory' : μ} {store : Store}
  {environment : Environment} {records : Records} {defaults : Constraints}
  {raw rawParent : Template} {kind : ContainerType}

/-- A container and its host that pass their checks are prechecked, and numbered. -/
theorem perform_insideNew_eq {parentTemplate template : Template}
    (hdefaults : store.constraints? = some defaults)
    (hinstance : raw.knownInstance? = none ∧ rawParent.knownInstance? = none)
    (hparent : rawParent.validate defaults false = .ok parentTemplate)
    (hkind : kind ≠ .noContainer) (hvalid : raw.validate defaults false = .ok template)
    (advisor : Advisor μ) (memory : μ) :
    advisor.perform (CreationPlan.insideNew raw rawParent kind) (store, memory) =
      advisor.perform (do
        precheck rawParent.series
          { rawParent.constraints.withFallbacks defaults with container := none }
        let parentId ← MachineId.nextRoot
        let id ← MachineId.nextContainer parentId kind
        return CreationPlan.ofInsideNew (raw.normalised defaults) (rawParent.normalised defaults)
          kind parentId id) (store, memory) := by
  have hrefuse := Template.reads_refuseInstance store _ hinstance.1
  have hparentRefuse := Template.reads_refuseInstance store _ hinstance.2
  have hrequire := CreationPlan.reads_requireContainer store _ hkind
  have heffective := Template.reads_effective hdefaults raw false
  have hparentEffective := Template.reads_effective hdefaults rawParent false
  rw [hvalid, Template.eq_normalised_of_validate hvalid] at heffective
  rw [hparent, Template.eq_normalised_of_validate hparent] at hparentEffective
  unfold CreationPlan.insideNew
  rw [Advisor.perform_bind_ok (hrefuse.perform_eq advisor memory),
    Advisor.perform_bind_ok (hparentRefuse.perform_eq advisor memory),
    Advisor.perform_bind_ok (hparentEffective.perform_eq advisor memory),
    Advisor.perform_bind_ok (hrequire.perform_eq advisor memory),
    Advisor.perform_bind_ok (heffective.perform_eq advisor memory)]
  rfl

/-- A container that is refused together with its host has cost nothing. -/
theorem perform_insideNew_error {error : Error} (hdefaults : store.constraints? = some defaults)
    (hrefuses : advisor.RefusesInsideNew defaults raw rawParent kind memory error memory') :
    advisor.perform (CreationPlan.insideNew raw rawParent kind) (store, memory) =
      (.error error, store, memory') := by
  have heffective := Template.reads_effective hdefaults raw false
  have hparentEffective := Template.reads_effective hdefaults rawParent false
  have hrefuse := Template.reads_refuseInstance store raw
  have hparentRefuse := Template.reads_refuseInstance store rawParent
  have hrequire := CreationPlan.reads_requireContainer store kind
  cases hrefuses with
  | known hinstance =>
    refine Store.Reads.perform_eq ?_ advisor memory
    cases hknown : raw.knownInstance? with
    | some instanceId =>
      exact (Template.reads_refuseInstance_error store (by rw [hknown]; rfl)).bind_error
    | none =>
      have hparentKnown := hinstance.resolve_left (by rw [hknown]; nofun)
      exact (hrefuse hknown).bind
        (Template.reads_refuseInstance_error store hparentKnown).bind_error
  | invalidHost hinstance hinvalid =>
    rw [hinvalid] at hparentEffective
    exact ((hrefuse hinstance.1).bind ((hparentRefuse hinstance.2).bind
      hparentEffective.bind_error)).perform_eq advisor memory
  | unnamed hinstance hparent hkind =>
    rw [hparent] at hparentEffective
    exact ((hrefuse hinstance.1).bind ((hparentRefuse hinstance.2).bind
      (hparentEffective.bind (CreationPlan.reads_requireContainer_error store
        hkind).bind_error))).perform_eq advisor memory
  | invalid hinstance hparent hkind hinvalid =>
    rw [hparent] at hparentEffective
    rw [hinvalid] at heffective
    exact ((hrefuse hinstance.1).bind ((hparentRefuse hinstance.2).bind
      (hparentEffective.bind ((hrequire hkind).bind heffective.bind_error)))).perform_eq advisor
        memory
  | rejected hinstance hparent hkind hvalid hjudged =>
    have hverdict := advisor.perform_precheck rawParent.series
      { rawParent.constraints.withFallbacks defaults with container := none } store memory
    rw [hjudged] at hverdict
    rw [perform_insideNew_eq hdefaults hinstance hparent hkind hvalid]
    exact Advisor.perform_bind_error hverdict

/-- A container and its host that are not refused get the next numbers. -/
theorem perform_insideNew (h : store.Regular environment records)
    (hdefaults : store.constraints? = some defaults)
    (haccepted : ∀ error memory',
      ¬advisor.RefusesInsideNew defaults raw rawParent kind memory error memory') :
    ∃ memory' middle drawn,
      advisor.judge rawParent.series
          { rawParent.constraints.withFallbacks defaults with container := none } memory =
        (.ok (), memory') ∧
      store.Draws middle MachineId.rootCounter 1 ∧ middle.Formed ∧
      middle.Draws drawn (MachineId.containerCounter
        (MachineId.root (store.count MachineId.rootCounter)) kind) 1 ∧ drawn.Formed ∧
      advisor.perform (CreationPlan.insideNew raw rawParent kind) (store, memory) =
        (.ok (.ofInsideNew (raw.normalised defaults) (rawParent.normalised defaults) kind
          (MachineId.root (store.count MachineId.rootCounter))
          (MachineId.container (MachineId.root (store.count MachineId.rootCounter)) kind
            (store.count (MachineId.containerCounter
              (MachineId.root (store.count MachineId.rootCounter)) kind)))), drawn, memory') := by
  have hinstance : raw.knownInstance? = none ∧ rawParent.knownInstance? = none := by
    constructor
    · by_contra hknown
      exact haccepted _ _ (.known (.inl (Option.isSome_iff_ne_none.mpr hknown)))
    · by_contra hknown
      exact haccepted _ _ (.known (.inr (Option.isSome_iff_ne_none.mpr hknown)))
  cases hparent : rawParent.validate defaults false with
  | error error => exact absurd (.invalidHost hinstance hparent) (haccepted error memory)
  | ok parentTemplate =>
    have hkind : kind ≠ .noContainer := fun hkind =>
      haccepted _ _ (.unnamed hinstance hparent hkind)
    cases hvalid : raw.validate defaults false with
    | error error =>
      exact absurd (.invalid hinstance hparent hkind hvalid) (haccepted error memory)
    | ok template =>
      rcases hjudged : advisor.judge rawParent.series
        { rawParent.constraints.withFallbacks defaults with container := none } memory with
        ⟨error | ⟨⟩, memory'⟩
      · exact absurd (.rejected hinstance hparent hkind hvalid hjudged) (haccepted error memory')
      · obtain ⟨middle, hroot, hdraws, hmiddle⟩ :=
          CreationPlan.perform_nextRoot h.formed advisor memory'
        obtain ⟨drawn, hnext, hlater, hformed⟩ := CreationPlan.perform_nextContainer hmiddle
          (MachineId.root (store.count MachineId.rootCounter)) kind advisor memory'
        refine ⟨memory', middle, drawn, rfl, hdraws, hmiddle, hlater, hformed, ?_⟩
        have hverdict := advisor.perform_precheck rawParent.series
          { rawParent.constraints.withFallbacks defaults with container := none } store memory
        rw [hjudged] at hverdict
        rw [perform_insideNew_eq hdefaults hinstance hparent hkind hvalid,
          Advisor.perform_bind_ok hverdict, Advisor.perform_bind_ok hroot,
          Advisor.perform_bind_ok hnext,
          hdraws.count_of_ne (MachineId.containerCounter_ne_rootCounter _ _)]
        rfl

theorem perform_addInsideNew (h : store.Regular environment records)
    (halive : environment.life = .alive) (hdefaults : store.constraints? = some defaults)
    (haccepted : ∀ error memory',
      ¬advisor.RefusesInsideNew defaults raw rawParent kind memory error memory') :
    ∃ memory' after parentId id, parentId = MachineId.root (store.count MachineId.rootCounter) ∧
      id = MachineId.container parentId kind
        (store.count (MachineId.containerCounter parentId kind)) ∧
      advisor.judge rawParent.series
          { rawParent.constraints.withFallbacks defaults with container := none } memory =
        (.ok (), memory') ∧
      advisor.perform (Machine.addInsideNew raw rawParent kind) (store, memory) =
        (.ok (raw.asked id (some kind)), after, memory') ∧
      store.GainsHosted after defaults raw rawParent kind parentId id := by
  obtain ⟨memory', middle, drawn, hjudged, hdraws, hmiddle, hlater, hformed, hplan⟩ :=
    h.perform_insideNew hdefaults haccepted
  have hdrawn := (h.draws hdraws hmiddle).draws hlater hformed
  have hparentFree := hlater.free (hdraws.free (h.free (.inl ⟨rfl, rfl⟩) (Nat.le_refl _)))
  have hfree := hlater.free (hdraws.free (h.free
    (.inr ⟨MachineId.root (store.count MachineId.rootCounter), kind, rfl, rfl⟩) (Nat.le_refl _)))
  obtain ⟨after, hcommit⟩ := CreationPlan.exists_transact_insideNew hparentFree hfree
    (raw.normalised defaults) (rawParent.normalised defaults) hdrawn halive
  obtain ⟨hparent, hcontainer⟩ := CreationPlan.registers_insideNew hparentFree hfree hcommit
  rw [Template.machine_normalised] at hparent hcontainer
  have hne := MachineId.containerCounter_ne_rootCounter
    (MachineId.root (store.count MachineId.rootCounter)) kind
  have hcounters : ∀ counter, after.count counter = drawn.count counter := by
    have hown : Layout.sequence ∉ Layout.containerRefs :: Machine.ownCollections := by decide
    intro counter
    apply count_congr
    apply CreationPlan.get?_eq_insideNew hcommit
    · exact fun hmem => hown (Machine.fst_mem_of_mem_allPlaces hmem)
    · exact fun hmem => hown (Machine.fst_mem_of_mem_allPlaces hmem)
  refine ⟨memory', after, _, _, rfl, rfl, hjudged, ?_, hparent.tells, hcontainer.tells, ?_, ?_, ?_⟩
  · have hchecked := (h.governed.reads_requireAlive halive).perform_eq advisor memory
    have hcommitted := hdrawn.governed.perform_commit halive hcommit advisor memory'
    unfold Machine.addInsideNew
    rw [Advisor.perform_bind_ok hchecked, Advisor.perform_bind_ok hplan,
      Advisor.perform_bind_ok hcommitted, ← Template.machine_normalised raw defaults]
    rfl
  · rw [hcounters, hlater.count_of_ne hne.symm, hdraws.count]
  · rw [hcounters, hlater.count, hdraws.count_of_ne hne]
  · intro collection key hroot hcounter hhost hplace
    rw [CreationPlan.get?_eq_insideNew hcommit hhost hplace]
    exact (hlater.same collection key fun ⟨hcollection, hkey⟩ =>
      hcounter (Prod.ext hcollection hkey)).trans
      (hdraws.same collection key fun ⟨hcollection, hkey⟩ => hroot (Prod.ext hcollection hkey))

end Store.Regular

/-- In an environment that is alive, a request for a container fails for the first reason to refuse
it and has then neither drawn a number nor written anything; where there is none the container is
added with the next number of its kind on its host.  Only where a new host is to be provisioned is
the policy asked, and only about the host. -/
theorem containers_added_or_refused {world : World} (hreachable : Reachable world)
    (halive : world.store.life? = some .alive) (raw rawParent : Template) (parent : String)
    (kind : ContainerType) {μ : Type} (advisor : Advisor μ) (memory : μ) :
    ∃ defaults, world.store.Reads Environment.constraints (.ok defaults) ∧
      (∀ error, world.store.RefusesInside defaults raw parent kind error →
        advisor.perform (Machine.addInside raw parent kind) (world.store, memory) =
          (.error error, world.store, memory)) ∧
      ((∀ error, ¬world.store.RefusesInside defaults raw parent kind error) →
        ∃ after id, id = MachineId.container parent kind
            (world.store.count (MachineId.containerCounter parent kind)) ∧
          advisor.perform (Machine.addInside raw parent kind) (world.store, memory) =
            (.ok (raw.asked id (some kind)), after, memory) ∧
          world.store.GainsContainer after defaults raw parent kind id) ∧
      (∀ error memory', advisor.RefusesInsideNew defaults raw rawParent kind memory error memory' →
        advisor.perform (Machine.addInsideNew raw rawParent kind) (world.store, memory) =
          (.error error, world.store, memory')) ∧
      ((∀ error memory',
          ¬advisor.RefusesInsideNew defaults raw rawParent kind memory error memory') →
        ∃ memory' after parentId id,
          parentId = MachineId.root (world.store.count MachineId.rootCounter) ∧
          id = MachineId.container parentId kind
            (world.store.count (MachineId.containerCounter parentId kind)) ∧
          advisor.judge rawParent.series
              { rawParent.constraints.withFallbacks defaults with container := none } memory =
            (.ok (), memory') ∧
          advisor.perform (Machine.addInsideNew raw rawParent kind) (world.store, memory) =
            (.ok (raw.asked id (some kind)), after, memory') ∧
          world.store.GainsHosted after defaults raw rawParent kind parentId id) ∧
      (raw.series ≠ "" → Job.firstRepeated? raw.jobs = none → Job.manageEnviron ∈ raw.jobs →
        raw.validate defaults false =
          .error (.permissionDenied "manage_environ specified but not allowed")) := by
  obtain ⟨environment, records, defaults, hregular, hlife, hdefaults⟩ :=
    hreachable.regular_of_alive halive
  have hchecked := (hregular.governed.reads_requireAlive hlife).perform_eq advisor memory
  refine ⟨defaults, reads_constraints hdefaults, ?_, ?_, ?_, ?_, ?_⟩
  · intro error hrefuses
    have hplan := (hregular.reads_inside_error hdefaults hrefuses).perform_eq advisor memory
    unfold Machine.addInside
    rw [Advisor.perform_bind_ok hchecked, Advisor.perform_bind_error hplan]
  · intro haccepted
    exact hregular.perform_addInside hlife hdefaults haccepted advisor memory
  · intro error memory' hrefuses
    unfold Machine.addInsideNew
    rw [Advisor.perform_bind_ok hchecked,
      Advisor.perform_bind_error (Store.Regular.perform_insideNew_error hdefaults hrefuses)]
  · intro haccepted
    exact hregular.perform_addInsideNew hlife hdefaults haccepted
  · intro hseries hrepeated hjob
    exact Template.validate_manageEnviron hseries hrepeated hjob defaults

namespace World

/-- In the constrained world nothing speaks against another container on the machine "0". -/
theorem not_refusesInside_constrained (error : Error) :
    ¬constrained.store.RefusesInside common sized "0" .lxc error := by
  have hunreported :
      (constrained.store.machine? "0").map (·.reportedContainers?) = some none := by
    decide +kernel
  rintro (hknown | ⟨-, hinvalid⟩ | ⟨-, -, hkind⟩ | ⟨-, -, -, hhost⟩ |
    ⟨-, -, -, hhost, hreported, -⟩)
  · cases hknown
  · cases hinvalid
  · cases hkind
  · rw [hhost] at hunreported
    cases hunreported
  · rw [hhost, Option.map_some, hreported] at hunreported
    cases hunreported

/-- Nothing speaks against a container together with a host of a series that is not refused. -/
theorem not_refusesInsideNew_common (error : Error) (memory : List (String × Constraints)) :
    ¬Advisor.choosy.RefusesInsideNew common sized plain .kvm [] error memory := by
  rintro (⟨hknown | hknown⟩ | ⟨-, hinvalid⟩ | ⟨-, -, hkind⟩ | ⟨-, -, -, hinvalid⟩ |
    ⟨-, -, -, -, hjudged⟩)
  · cases hknown
  · cases hknown
  · cases hinvalid
  · cases hkind
  · cases hinvalid
  · cases hjudged

end World

/-- In the constrained world a second container is put on the machine "0", none on a machine that
does not exist, and a machine is added with a container on it unless the policy refuses it.  What is
wanted of either is layered over what is common, and this is what the policy is asked about. -/
theorem containers_added_or_refused_constrained :
    (∃ after, Advisor.choosy.perform (Machine.addInside World.sized "0" .lxc)
          (World.constrained.store, []) =
        (.ok (World.sized.asked "0/lxc/1" (some .lxc)), after, []) ∧
      World.constrained.store.GainsContainer after World.common World.sized "0" .lxc "0/lxc/1" ∧
      after.Tells (World.sized.asked "0/lxc/1" (some .lxc)) World.provisioned {} []) ∧
    Advisor.choosy.perform (Machine.addInside World.sized "9" .lxc) (World.constrained.store, []) =
      (.error (.objectNotFound .machine (.byId "9")), World.constrained.store, []) ∧
    (∃ after, Advisor.choosy.perform (Machine.addInsideNew World.sized World.plain .kvm)
          (World.constrained.store, []) =
        (.ok (World.sized.asked "3/kvm/0" (some .kvm)), after,
          [("jammy", { World.common with container := none })]) ∧
      World.constrained.store.GainsHosted after World.common World.sized World.plain .kvm "3"
        "3/kvm/0" ∧
      after.Tells (World.plain.asked "3" none) { World.common with container := none } {}
        ["3/kvm/0"] ∧
      after.Tells (World.sized.asked "3/kvm/0" (some .kvm)) World.provisioned {} []) ∧
    Advisor.choosy.perform
        (Machine.addInsideNew World.plain { World.sized with series := "focal" } .kvm)
        (World.constrained.store, []) =
      (.error (.provisioningRejected "no: such: image"), World.constrained.store,
        [("focal", World.provisioned)]) := by
  obtain ⟨hlife, hdefaults, hcount⟩ := World.constrained_alive
  obtain ⟨hmissing, hinside, hinsideNew⟩ : World.constrained.store.machine? "9" = none ∧
      World.constrained.store.count (MachineId.containerCounter "0" .lxc) = 1 ∧
      World.constrained.store.count (MachineId.containerCounter "3" .kvm) = 0 := by decide +kernel
  have hids : MachineId.root 3 = "3" ∧ MachineId.container "0" .lxc 1 = "0/lxc/1" ∧
      MachineId.container "3" .kvm 0 = "3/kvm/0" := by decide
  have hrequest := fun raw rawParent parent kind => containers_added_or_refused
    World.reachable_constrained hlife raw rawParent parent kind Advisor.choosy []
  refine ⟨?_, ?_, ?_, ?_⟩
  · obtain ⟨defaults, hreads, -, hadded, -⟩ := hrequest World.sized World.plain "0" .lxc
    obtain rfl := Except.ok.inj (hreads.unique (reads_constraints hdefaults))
    obtain ⟨after, id, rfl, hperform, hgains⟩ := hadded World.not_refusesInside_constrained
    rw [hinside, hids.2.1] at hperform hgains
    exact ⟨after, hperform, hgains, hgains.tells⟩
  · obtain ⟨defaults, hreads, hrefused, -⟩ := hrequest World.sized World.plain "9" .lxc
    obtain rfl := Except.ok.inj (hreads.unique (reads_constraints hdefaults))
    exact hrefused _ (.missing rfl rfl (by decide) hmissing)
  · obtain ⟨defaults, hreads, -, -, -, hadded, -⟩ := hrequest World.sized World.plain "0" .kvm
    obtain rfl := Except.ok.inj (hreads.unique (reads_constraints hdefaults))
    obtain ⟨memory', after, parentId, id, rfl, rfl, hjudged, hperform, hgains⟩ :=
      hadded World.not_refusesInsideNew_common
    obtain rfl : [("jammy", { World.common with container := none })] = memory' :=
      congrArg Prod.snd hjudged
    rw [hcount, hids.1, hinsideNew, hids.2.2] at hperform hgains
    exact ⟨after, hperform, hgains, hgains.parent, hgains.container⟩
  · obtain ⟨defaults, hreads, -, -, hrefused, -⟩ :=
      hrequest World.plain { World.sized with series := "focal" } "0" .kvm
    obtain rfl := Except.ok.inj (hreads.unique (reads_constraints hdefaults))
    exact hrefused _ _ (.rejected ⟨rfl, rfl⟩ rfl (by decide) rfl rfl)

end ControlPlane
