import ControlPlane.Proofs.Undisturbed.Insertion

/-!
# Adding containers without disturbance

A container is planned on a machine that exists, or together with a new root
machine.  In a store that is in order the plan is committed: each new machine
has its records, and the container is at the end of the list of its host.
-/

namespace ControlPlane

open Json Store

theorem Machine.place_of_mem_insertOps {machine : Machine} {template : Template} {op : Op}
    (h : op ∈ machine.insertOps template) : (op.collection, op.id) ∈ allPlaces machine.id :=
  List.mem_append_left _ ((places_insertOps_sublist machine template).subset
    (Op.mem_places_of_isInsertion h (isInsertion_of_mem_insertOps h)))

namespace CreationPlan

variable {store after : Store} {environment : Environment} {records : Records}
  {template parentTemplate : Template} {kind : ContainerType}

/-! ## On a machine that exists -/

section Inside

variable {parent : String} {siblings : List String} {number : Nat}

theorem cases_of_mem_ofInside {id : String} {op : Op}
    (h : op ∈ (ofInside template parent kind id).ops) :
    op ∈ (template.machine id (some kind)).insertOps template ∨
      op = ContainerRef.adoptOp parent id ∨ op = ContainerRef.insertOp id [] := by
  rcases List.mem_append.mp h with h | h
  · exact .inl h
  · simp only [List.mem_cons, List.not_mem_nil, or_false] at h
    exact .inr h

variable (hfree : ∀ place ∈ Machine.allPlaces (MachineId.container parent kind number),
    store.get? place.1 place.2 = none)
  (h : store.Regular environment records) (hhost : records.children? parent = some siblings)

include hfree h hhost

/-- A container whose place is free can be added to a machine that exists. -/
theorem exists_transact_inside (template : Template) (halive : environment.life = .alive) :
    ∃ after, store.transact (Environment.checkAliveOp ::
      (ofInside template parent kind (MachineId.container parent kind number)).ops) =
        .ok after := by
  have hplaces : (Op.places
      (ofInside template parent kind (MachineId.container parent kind number)).ops).Subperm
        ([MachineId.container parent kind number].flatMap Machine.allPlaces) := by
    simpa using (places_ofInside_sublist template parent kind _).subperm
  apply h.exists_transact halive (known_ofInside _ _ _ _) hplaces (List.nodup_singleton _)
    (by simpa using hfree)
  · intro op hop hinsertion
    rcases cases_of_mem_ofInside hop with hop | rfl | rfl
    · exact absurd (Machine.isInsertion_of_mem_insertOps hop) hinsertion
    · change Assertion.failure? (store.get? Layout.containerRefs parent) .present = none
      rw [h.holds.children, hhost]
      rfl
    · exact absurd ⟨_, _, _, rfl⟩ hinsertion

variable (hcommit : store.transact (Environment.checkAliveOp ::
    (ofInside template parent kind (MachineId.container parent kind number)).ops) = .ok after)

include hcommit

/-- The container has its records, and its host lists it last. -/
theorem registers_inside :
    after.Registers (template.machine (MachineId.container parent kind number) (some kind))
        template.constraints (template.hardware.getD {}) [] ∧
      after.get? Layout.containerRefs parent = some (ContainerRef.toValue
        { id := parent, children := siblings ++ [MachineId.container parent kind number] }) := by
  let machine := template.machine (MachineId.container parent kind number) (some kind)
  have hne : parent ≠ machine.id := (MachineId.container_ne_parent parent kind number).symm
  have hparent : machine.parent? = some parent := MachineId.parent?_container parent kind number
  have hfresh : records.machine? machine.id = none := by
    have hnone := hfree (Layout.machines, machine.id) List.mem_cons_self
    rwa [h.holds.machine, Option.map_eq_none_iff] at hnone
  obtain ⟨-, hchildren⟩ := Submission.children_of_adopt machine h.holds h.consistent hcommit hfresh
    hparent hne
  constructor
  · apply registers_of_commit hcommit
    · intro op hop
      exact (mild_ofInside template parent kind _ op hop).1
    · intro op hop
      exact List.mem_append_left _ hop
    · have hrefs : Layout.containerRefs ∉ Machine.ownCollections := by decide
      intro collection hcollection op hop hsame
      rcases cases_of_mem_ofInside hop with hop | rfl | rfl
      · exact (Machine.mem_insertOps hop).2
      · exact absurd hsame.symm (ne_of_mem_of_not_mem hcollection hrefs)
      · exact absurd hsame.symm (ne_of_mem_of_not_mem hcollection hrefs)
    · exact hfree
    · have hrefs : Layout.containerRefs ≠ Layout.instanceData := by decide
      intro hnone op hop hcollection
      rcases cases_of_mem_ofInside hop with hop | rfl | rfl
      · have hsome := (Machine.isSome_instanceId_of_mem hop hcollection).2
        exact absurd hnone (Option.isSome_iff_ne_none.mp hsome)
      · exact absurd hcollection hrefs
      · exact absurd hcollection hrefs
    · rw [hchildren]
      change Option.map _ (Option.map _ (if _ ∈ [machine.id] then some [] else _)) = _
      rw [if_pos List.mem_cons_self, Submission.childrenAmong_singleton hparent,
        if_neg hne.symm]
      rfl
  · rw [hchildren]
    change Option.map _ (Option.map _ (if parent ∈ [machine.id] then some [] else _)) = _
    rw [if_neg (by simpa using hne), hhost, Submission.childrenAmong_singleton hparent, if_pos rfl]
    rfl

omit hfree h hhost in
/-- Adding a container leaves everything else alone. -/
theorem get?_eq_inside {collection id : String}
    (hplace : (collection, id) ∉ Machine.allPlaces (MachineId.container parent kind number))
    (hparent : (collection, id) ≠ (Layout.containerRefs, parent)) :
    after.get? collection id = store.get? collection id := by
  apply get?_eq_of_commit hcommit
  · intro op hop
    exact (mild_ofInside template parent kind _ op hop).1
  · intro op hop heq
    rcases cases_of_mem_ofInside hop with hop | rfl | rfl
    · exact hplace (heq ▸ Machine.place_of_mem_insertOps hop)
    · exact hparent heq.symm
    · exact hplace (heq ▸ List.mem_append_right _ (List.mem_singleton_self _))

end Inside

/-! ## Together with a new root machine -/

section InsideNew

variable {parentNumber number : Nat}

theorem cases_of_mem_ofInsideNew {parentId id : String} {op : Op}
    (h : op ∈ (ofInsideNew template parentTemplate kind parentId id).ops) :
    op ∈ (parentTemplate.machine parentId none).insertOps parentTemplate ∨
      op ∈ (template.machine id (some kind)).insertOps template ∨
      op = ContainerRef.insertOp id [] ∨ op = ContainerRef.insertOp parentId [id] := by
  rcases List.mem_append.mp h with h | h
  · exact (List.mem_append.mp h).imp_right .inl
  · simp only [List.mem_cons, List.not_mem_nil, or_false] at h
    exact .inr (.inr h)

variable (hparent : ∀ place ∈ Machine.allPlaces (MachineId.root parentNumber),
    store.get? place.1 place.2 = none)
  (hfree : ∀ place ∈ Machine.allPlaces
      (MachineId.container (MachineId.root parentNumber) kind number),
    store.get? place.1 place.2 = none)

include hparent hfree

/-- A container and its host can be added where their places are free. -/
theorem exists_transact_insideNew (template parentTemplate : Template)
    (h : store.Regular environment records) (halive : environment.life = .alive) :
    ∃ after, store.transact (Environment.checkAliveOp ::
      (ofInsideNew template parentTemplate kind (MachineId.root parentNumber)
        (MachineId.container (MachineId.root parentNumber) kind number)).ops) = .ok after := by
  have hne := MachineId.container_ne_parent (MachineId.root parentNumber) kind number
  apply h.exists_transact halive (known_ofInsideNew _ _ _ _ _)
    (places_ofInsideNew_subperm template parentTemplate kind _ _) (by simpa using hne.symm)
  · simp only [List.forall_mem_cons]
    exact ⟨hparent, hfree, nofun⟩
  · intro op hop hinsertion
    exact absurd (isInsertion_of_mem_ofInsideNew hop) hinsertion

variable (hcommit : store.transact (Environment.checkAliveOp ::
    (ofInsideNew template parentTemplate kind (MachineId.root parentNumber)
      (MachineId.container (MachineId.root parentNumber) kind number)).ops) = .ok after)

include hcommit

/-- Both machines have their records, and the host lists the container. -/
theorem registers_insideNew :
    after.Registers (parentTemplate.machine (MachineId.root parentNumber) none)
        parentTemplate.constraints (parentTemplate.hardware.getD {})
        [MachineId.container (MachineId.root parentNumber) kind number] ∧
      after.Registers
        (template.machine (MachineId.container (MachineId.root parentNumber) kind number)
          (some kind)) template.constraints (template.hardware.getD {}) [] := by
  have hne := MachineId.container_ne_parent (MachineId.root parentNumber) kind number
  have hrefs : Layout.containerRefs ≠ Layout.instanceData := by decide
  have henvironment : ∀ op ∈ (ofInsideNew template parentTemplate kind
      (MachineId.root parentNumber)
      (MachineId.container (MachineId.root parentNumber) kind number)).ops,
      op.collection ≠ Layout.environments := fun op hop =>
    (mild_ofInsideNew _ _ _ _ _ op hop).1
  have honly : ∀ collection, Op.OnlyInsert collection (ofInsideNew template parentTemplate kind
      (MachineId.root parentNumber)
      (MachineId.container (MachineId.root parentNumber) kind number)).ops := fun _ op hop _ =>
    (mem_ofInsideNew_ops hop).2
  constructor
  · apply registers_of_commit hcommit henvironment
    · intro op hop
      exact List.mem_append_left _ (List.mem_append_left _ hop)
    · exact fun collection _ => honly collection
    · exact hparent
    · intro hnone op hop hcollection hid
      rcases cases_of_mem_ofInsideNew hop with hop | hop | rfl | rfl
      · have hsome := (Machine.isSome_instanceId_of_mem hop hcollection).2
        exact absurd hnone (Option.isSome_iff_ne_none.mp hsome)
      · exact hne ((Machine.isSome_instanceId_of_mem hop hcollection).1.symm.trans hid)
      · exact hrefs hcollection
      · exact hrefs hcollection
    · apply get?_of_insert_mem hcommit (by decide) (honly _)
      exact List.mem_append_right _ (List.mem_cons_of_mem _ List.mem_cons_self)
  · apply registers_of_commit hcommit henvironment
    · intro op hop
      exact List.mem_append_left _ (List.mem_append_right _ hop)
    · exact fun collection _ => honly collection
    · exact hfree
    · intro hnone op hop hcollection hid
      rcases cases_of_mem_ofInsideNew hop with hop | hop | rfl | rfl
      · exact hne (hid.symm.trans (Machine.isSome_instanceId_of_mem hop hcollection).1)
      · have hsome := (Machine.isSome_instanceId_of_mem hop hcollection).2
        exact absurd hnone (Option.isSome_iff_ne_none.mp hsome)
      · exact hrefs hcollection
      · exact hrefs hcollection
    · apply get?_of_insert_mem hcommit (by decide) (honly _)
      exact List.mem_append_right _ List.mem_cons_self

omit hparent hfree in
/-- Adding a container and its host leaves everything else alone. -/
theorem get?_eq_insideNew {collection id : String}
    (hhost : (collection, id) ∉ Machine.allPlaces (MachineId.root parentNumber))
    (hplace : (collection, id) ∉ Machine.allPlaces
      (MachineId.container (MachineId.root parentNumber) kind number)) :
    after.get? collection id = store.get? collection id := by
  apply get?_eq_of_commit hcommit
  · intro op hop
    exact (mild_ofInsideNew _ _ _ _ _ op hop).1
  · intro op hop heq
    rcases cases_of_mem_ofInsideNew hop with hop | hop | rfl | rfl
    · exact hhost (heq ▸ Machine.place_of_mem_insertOps hop)
    · exact hplace (heq ▸ Machine.place_of_mem_insertOps hop)
    · exact hplace (heq ▸ List.mem_append_right _ (List.mem_singleton_self _))
    · exact hhost (heq ▸ List.mem_append_right _ (List.mem_singleton_self _))

end InsideNew

end CreationPlan

end ControlPlane
