import ControlPlane.Proofs.Machine.Sound
import ControlPlane.Proofs.Topology.Forest

/-!
# The records about a machine are complete

A machine has a list of containers, constraints and a status, and a record of
its instance where one is known.  They are spread over five collections, but
they come into being in one transaction, and nothing ever takes one of them
away.
-/

namespace ControlPlane

open Json Store

variable {store after : Store} {ops : List Op} {id : String}

namespace Layout

theorem machineKey_inj {id id' : String} (h : machineKey id = machineKey id') : id = id' :=
  String.append_right_inj machineMark |>.mp h

theorem machineKey_ne_environmentKey (id : String) : machineKey id ≠ environmentKey := by
  intro heq
  have hlist := congrArg String.toList heq
  rw [machineKey, String.toList_append] at hlist
  cases hlist

end Layout

/-- Where a machine has its own records, by collection and id. -/
def Machine.places (id : String) : List (String × String) :=
  [(Layout.machines, id), (Layout.constraints, Layout.machineKey id),
    (Layout.statuses, Layout.machineKey id), (Layout.instanceData, id)]

theorem Machine.forall_mem_places {property : String × String → Prop} :
    (∀ place ∈ places id, property place) ↔
      property (Layout.machines, id) ∧ property (Layout.constraints, Layout.machineKey id) ∧
        property (Layout.statuses, Layout.machineKey id) ∧
        property (Layout.instanceData, id) := by
  simp [places]

theorem Machine.fst_mem_of_mem_places {place : String × String} (h : place ∈ places id) :
    place.1 ∈ ownCollections := by
  simp only [places, List.mem_cons, List.not_mem_nil, or_false] at h
  rcases h with rfl | rfl | rfl | rfl <;> simp [ownCollections]

/-- The constraints of the environment are not those of a machine. -/
theorem Machine.environment_notMem_places (id : String) :
    (Layout.constraints, Layout.environmentKey) ∉ places id := by
  have hmachines : Layout.constraints ≠ Layout.machines := by decide
  have hstatuses : Layout.constraints ≠ Layout.statuses := by decide
  have hinstances : Layout.constraints ≠ Layout.instanceData := by decide
  have hkey := (Layout.machineKey_ne_environmentKey id).symm
  simp [places, hmachines, hstatuses, hinstances, hkey]

/-- The store has all the own records of a machine, or none of them. -/
inductive Store.Accounts (store : Store) (id : String) : Prop where
  | absent (h : ∀ place ∈ Machine.places id, store.get? place.1 place.2 = none)
  | present (machine : Machine) (constraints : Constraints) (hardware : Hardware)
      (hmachine : store.get? Layout.machines id = some machine.toValue)
      (hlife : machine.life = .alive) (hsound : machine.Sound)
      (hconstraints : store.get? Layout.constraints (Layout.machineKey id) =
        some constraints.toValue)
      (hcontainer : constraints.container = none)
      (hstatus : (store.get? Layout.statuses (Layout.machineKey id)).isSome = true)
      (hinstance : store.get? Layout.instanceData id = machine.instanceId.map fun instanceId =>
        InstanceData.toValue { machineId := id, instanceId, hardware })

theorem Store.Accounts.congr (h : store.Accounts id)
    (hsame : ∀ place ∈ Machine.places id,
      after.get? place.1 place.2 = store.get? place.1 place.2) : after.Accounts id := by
  cases h with
  | absent hnone =>
    apply Accounts.absent
    intro place hplace
    exact (hsame place hplace).trans (hnone place hplace)
  | present machine constraints hardware hmachine hlife hsound hconstraints hcontainer hstatus
      hinstance =>
    obtain ⟨hmachines, hkeyed, hstatuses, hinstances⟩ := Machine.forall_mem_places.mp hsame
    refine .present machine constraints hardware (hmachines.trans hmachine) hlife hsound
      (hkeyed.trans hconstraints) hcontainer ?_ (hinstances.trans hinstance)
    rw [hstatuses]
    exact hstatus

/-- Operations that take complete records to complete records. -/
def Store.Op.KeepAccounts (ops : List Op) : Prop :=
  ∀ (store after : Store) (index : Nat), store.applyFrom index ops = .ok after →
    (∀ id, store.Accounts id) → ∀ id, after.Accounts id

namespace Store.Op

theorem KeepAccounts.append {rest : List Op} (h : KeepAccounts ops) (hrest : KeepAccounts rest) :
    KeepAccounts (ops ++ rest) := by
  intro store after index happly haccounts
  obtain ⟨middle, hfirst, hsecond⟩ := applyFrom_append_eq_ok happly
  exact hrest middle after _ hsecond (h store middle index hfirst haccounts)

theorem keepAccounts_flatMap {α : Type} {xs : List α} {f : α → List Op}
    (h : ∀ x ∈ xs, KeepAccounts (f x)) : KeepAccounts (xs.flatMap f) := by
  induction xs with
  | nil =>
    intro store after index happly haccounts
    obtain rfl : store = after := Except.ok.inj happly
    exact haccounts
  | cons x xs ih =>
    rw [List.forall_mem_cons] at h
    exact h.1.append (ih h.2)

/-- Operations that name no record of a machine. -/
theorem keepAccounts_of_notMem_places
    (h : ∀ op ∈ ops, ∀ id, (op.collection, op.id) ∉ Machine.places id) : KeepAccounts ops := by
  intro store after index happly haccounts id
  apply (haccounts id).congr
  intro place hplace
  apply get?_eq_of_not_named happly
  intro op hop
  rw [← Bool.not_eq_true, names_iff]
  rintro ⟨hcollection, hid⟩
  have hsame : (op.collection, op.id) = place := Prod.ext hcollection hid
  exact h op hop id (hsame ▸ hplace)

theorem keepAccounts_of_collections (h : ∀ op ∈ ops, op.collection ∉ Machine.ownCollections) :
    KeepAccounts ops := by
  apply keepAccounts_of_notMem_places
  intro op hop id hmem
  exact h op hop (Machine.fst_mem_of_mem_places hmem)

end Store.Op

namespace Machine

section Insertion

variable (machine : Machine) (template : Template)

theorem inserted_constraints_insertOps :
    Op.inserted Layout.constraints (machine.insertOps template) =
      [(Layout.machineKey machine.id, template.constraints.toValue)] := by
  unfold insertOps
  cases machine.instanceId with
  | none => rfl
  | some instanceId => rfl

theorem inserted_statuses_insertOps :
    Op.inserted Layout.statuses (machine.insertOps template) =
      [(Layout.machineKey machine.id, initialStatus.toValue)] := by
  unfold insertOps
  cases machine.instanceId with
  | none => rfl
  | some instanceId => rfl

theorem inserted_instanceData_insertOps :
    Op.inserted Layout.instanceData (machine.insertOps template) =
      (machine.instanceId.map fun instanceId =>
        let data : InstanceData :=
          { machineId := machine.id, instanceId, hardware := template.hardware.getD {} }
        (machine.id, data.toValue)).toList := by
  unfold insertOps
  cases machine.instanceId with
  | none => rfl
  | some instanceId => rfl

end Insertion

/-- The records of a sound machine are complete when they have been inserted. -/
theorem keepAccounts_insertOps {machine : Machine} {template : Template}
    (hlife : machine.life = .alive) (hsound : machine.Sound)
    (hcontainer : template.constraints.container = none) :
    Op.KeepAccounts (machine.insertOps template) := by
  intro store after index happly haccounts id
  have hinserts : ∀ collection, Inserts store after collection
      (Op.inserted collection (machine.insertOps template)) := fun _ =>
    inserts_of_onlyInsert happly fun op hop _ => (mem_insertOps hop).2
  have hmachines := hinserts Layout.machines
  have hconstraints := hinserts Layout.constraints
  have hstatuses := hinserts Layout.statuses
  have hinstances := hinserts Layout.instanceData
  rw [inserted_insertOps] at hmachines
  rw [inserted_constraints_insertOps] at hconstraints
  rw [inserted_statuses_insertOps] at hstatuses
  rw [inserted_instanceData_insertOps] at hinstances
  by_cases hid : id = machine.id
  · subst hid
    have hfresh := hmachines.fresh machine.id List.mem_cons_self
    cases haccounts machine.id with
    | present _ _ _ hmachine => simp [hmachine] at hfresh
    | absent hnone =>
      obtain ⟨-, -, -, hnone⟩ := forall_mem_places.mp hnone
      refine .present machine template.constraints (template.hardware.getD {}) ?_ hlife hsound ?_
        hcontainer ?_ ?_
      · simp [hmachines.get?_eq, Table.get?]
      · simp [hconstraints.get?_eq, Table.get?]
      · simp [hstatuses.get?_eq, Table.get?]
      · rw [hinstances.get?_eq, hnone]
        cases machine.instanceId <;> simp [Table.get?]
  · have hkey : ¬Layout.machineKey machine.id = Layout.machineKey id := fun heq =>
      hid (Layout.machineKey_inj heq).symm
    have hid : ¬machine.id = id := fun heq => hid heq.symm
    apply (haccounts id).congr
    refine forall_mem_places.mpr ⟨?_, ?_, ?_, ?_⟩
    · simp [hmachines.get?_eq, Table.get?, hid]
    · simp [hconstraints.get?_eq, Table.get?, hkey]
    · simp [hstatuses.get?_eq, Table.get?, hkey]
    · rw [hinstances.get?_eq]
      cases machine.instanceId <;> simp [Table.get?, hid]

/-- What a machine reports leaves its records complete. -/
theorem keepAccounts_reportOp (host : String) (kinds : List ContainerType) :
    Op.KeepAccounts [reportOp host kinds] := by
  intro store after index happly haccounts id
  by_cases hid : id = host
  · subst hid
    have hreport := foldlM_effects_eq_ok happly Layout.machines id
    rw [List.filter_cons_of_pos (names_reportOp id kinds), List.filter_nil,
      foldlM_effects_singleton] at hreport
    have hother : ∀ collection id', collection ≠ Layout.machines →
        after.get? collection id' = store.get? collection id' := by
      intro collection id' hcollection
      exact get?_eq_of_notMem_collections happly (by simpa [reportOp, Op.update]) id'
    cases haccounts id with
    | absent hnone =>
      rw [hnone (Layout.machines, id) List.mem_cons_self] at hreport
      cases hreport
    | present machine constraints hardware hmachine hlife hsound hconstraints hcontainer hstatus
        hinstance =>
      rw [hmachine, apply_reportOp] at hreport
      refine .present (machine.reporting kinds) constraints hardware
        (Except.ok.inj hreport).symm hlife (hsound.reporting kinds) ?_ hcontainer ?_ ?_
      · exact (hother _ _ (by decide)).trans hconstraints
      · rw [hother _ _ (by decide)]
        exact hstatus
      · exact (hother _ _ (by decide)).trans hinstance
  · apply (haccounts id).congr
    intro place hplace
    apply get?_eq_of_not_named happly
    intro op hop
    rw [List.mem_singleton.mp hop, ← Bool.not_eq_true, Op.names_iff]
    rintro ⟨hcollection, hhost⟩
    obtain ⟨hconstraints, hstatuses, hinstances⟩ : Layout.machines ≠ Layout.constraints ∧
        Layout.machines ≠ Layout.statuses ∧ Layout.machines ≠ Layout.instanceData := by decide
    simp only [places, List.mem_cons, List.not_mem_nil, or_false] at hplace
    rcases hplace with rfl | rfl | rfl | rfl
    · exact hid hhost.symm
    · exact hconstraints hcollection
    · exact hstatuses hcollection
    · exact hinstances hcollection

end Machine

/-! ## What is submitted keeps the records complete -/

namespace CreationPlan

theorem keepAccounts_ofRoot {template : Template} (hvalid : template.Valid) (id : String) :
    Op.KeepAccounts (ofRoot template id).ops := by
  have hrefs : Layout.containerRefs ∉ Machine.ownCollections := by decide
  apply (Machine.keepAccounts_insertOps rfl (hvalid.sound_root id) hvalid.container).append
  apply Op.keepAccounts_of_collections
  intro op hop
  rw [List.mem_singleton.mp hop]
  exact hrefs

theorem keepAccounts_roots {plans : List CreationPlan} {past : History}
    (hplans : ∀ plan ∈ plans, ∃ raw, plan.IsRoot raw past) (current : StateServers) :
    Op.KeepAccounts (plans.flatMap (·.ops) ++
      (StateServers.addOp? (plans.map (·.machine)) current).toList) := by
  have hservers : Layout.stateServers ∉ Machine.ownCollections := by decide
  have hmachines : Op.KeepAccounts (plans.flatMap (·.ops)) := by
    apply Op.keepAccounts_flatMap
    intro plan hplan
    obtain ⟨raw, template, number, haccepted, -, rfl⟩ := hplans plan hplan
    exact keepAccounts_ofRoot haccepted.valid _
  apply hmachines.append
  apply Op.keepAccounts_of_collections
  intro op hop
  rw [(StateServers.addOp?_eq_some (Option.mem_toList.mp hop)).1]
  exact hservers

theorem keepAccounts_ofInside {raw template : Template} {past : History}
    (haccepted : raw.Accepted false past template) (hinstance : raw.knownInstance? = none)
    (parent : String) (kind : ContainerType) (id : String) :
    Op.KeepAccounts (ofInside template parent kind id).ops := by
  have hrefs : Layout.containerRefs ∉ Machine.ownCollections := by decide
  have hsound := haccepted.valid.sound_container (haccepted.knownInstance?_eq_none hinstance)
    (haccepted.isStateServer_eq_false id (some kind))
  apply (Machine.keepAccounts_insertOps rfl hsound haccepted.valid.container).append
  apply Op.keepAccounts_of_collections
  intro op hop
  simp only [List.mem_cons, List.not_mem_nil, or_false] at hop
  rcases hop with rfl | rfl
  · exact hrefs
  · exact hrefs

theorem keepAccounts_ofInsideNew {raw template parentTemplate : Template} {past : History}
    (haccepted : raw.Accepted false past template) (hinstance : raw.knownInstance? = none)
    (hparent : parentTemplate.Valid) (kind : ContainerType) (parentId id : String) :
    Op.KeepAccounts (ofInsideNew template parentTemplate kind parentId id).ops := by
  have hrefs : Layout.containerRefs ∉ Machine.ownCollections := by decide
  have hsound := haccepted.valid.sound_container (haccepted.knownInstance?_eq_none hinstance)
    (haccepted.isStateServer_eq_false id (some kind))
  have hmachine := Machine.keepAccounts_insertOps rfl hsound haccepted.valid.container
  have hhost :=
    Machine.keepAccounts_insertOps rfl (hparent.sound_root parentId) hparent.container
  apply (hhost.append hmachine).append
  apply Op.keepAccounts_of_collections
  intro op hop
  simp only [List.mem_cons, List.not_mem_nil, or_false] at hop
  rcases hop with rfl | rfl
  · exact hrefs
  · exact hrefs

end CreationPlan

/-- Whatever is submitted keeps the records of machines complete. -/
theorem Submission.keepAccounts {limit : Nat} {past : History} (h : Submission limit past ops) :
    Op.KeepAccounts ops := by
  have halive : Op.KeepAccounts [Environment.checkAliveOp] := by
    apply Op.keepAccounts_of_collections
    decide
  have hconstraints : ∀ {op : Op}, op.collection = Layout.constraints →
      op.id = Layout.environmentKey → Op.KeepAccounts [op] := by
    intro op hcollection hid
    apply Op.keepAccounts_of_notMem_places
    intro other hother id
    rw [List.mem_singleton.mp hother, hcollection, hid]
    exact Machine.environment_notMem_places id
  cases h with
  | establish uuid constraints =>
    have henvironment : Op.KeepAccounts [(Environment.fresh uuid).insertOp] := by
      have hown : Layout.environments ∉ Machine.ownCollections := by decide
      apply Op.keepAccounts_of_collections
      intro op hop
      rw [List.mem_singleton.mp hop]
      exact hown
    have hservers : Op.KeepAccounts [StateServers.insertOp] := by
      apply Op.keepAccounts_of_collections
      decide
    exact henvironment.append ((hconstraints rfl rfl).append hservers)
  | destroy =>
    apply Op.keepAccounts_of_collections
    decide
  | setConstraints constraints => exact halive.append (hconstraints rfl rfl)
  | report id kinds => exact halive.append (Machine.keepAccounts_reportOp id kinds)
  | roots plans current hplans hgrowth =>
    exact halive.append (CreationPlan.keepAccounts_roots hplans current)
  | inside raw template parent kind number host haccepted hinstance hkind hhost hsupports hnumber =>
    exact halive.append (CreationPlan.keepAccounts_ofInside haccepted hinstance _ _ _)
  | insideNew raw template rawParent parentTemplate kind parentNumber number haccepted hparent
      hinstance hparentInstance hkind hparentNumber hnumber =>
    exact halive.append
      (CreationPlan.keepAccounts_ofInsideNew haccepted hinstance hparent.valid _ _ _)

/-- In every reachable world the records of all machines are complete. -/
theorem Reachable.accounts {world : World} (h : Reachable world) :
    ∀ id, world.store.Accounts id := by
  apply h.induct
  · intro id
    exact .absent fun _ _ => rfl
  · intro world event later hreachable haccounts hstep
    rcases hstep.unchanged_or_commit hreachable.conducted with
      hsame | ⟨index, thread, ops, -, -, hops, hcommit⟩
    · have hcounters : ∀ collection ∈ Machine.ownCollections, collection ≠ Layout.sequence := by
        decide
      intro id
      apply (haccounts id).congr
      intro place hplace
      apply hsame
      apply hcounters
      exact Machine.fst_mem_of_mem_places hplace
    · exact hops.keepAccounts _ _ 0 (transact_eq_ok_iff.mp hcommit).2 haccounts

/-- The records about machines are complete, and agree with one another. -/
structure Store.IsComplete (store : Store) : Prop where
  containers : ∀ id, (store.get? Layout.containerRefs id).isSome =
    (store.get? Layout.machines id).isSome
  constraints : ∀ id, (store.get? Layout.constraints (Layout.machineKey id)).isSome =
    (store.get? Layout.machines id).isSome
  statuses : ∀ id, (store.get? Layout.statuses (Layout.machineKey id)).isSome =
    (store.get? Layout.machines id).isSome
  /-- There is an instance where the machine has one. -/
  instances : ∀ id, (store.get? Layout.instanceData id).isSome = true ↔
    ∃ machine, store.machine? id = some machine ∧ machine.instanceId.isSome = true
  instance_eq : ∀ id document, store.get? Layout.instanceData id = some document →
    ∃ data machine, InstanceData.decode document = .ok data ∧ data.machineId = id ∧
      store.machine? id = some machine ∧ machine.instanceId = some data.instanceId
  sound : ∀ id document, store.get? Layout.machines id = some document →
    ∃ machine, Machine.decode document = .ok machine ∧ machine.Sound
  unplaced : ∀ id document,
    store.get? Layout.constraints (Layout.machineKey id) = some document →
      ∃ constraints, Constraints.decode document = .ok constraints ∧ constraints.container = none

theorem Store.machine?_of_get? {machine : Machine}
    (h : store.get? Layout.machines id = some machine.toValue) :
    store.machine? id = some machine := by
  rw [machine?, record?, h, Option.bind_some, machine.decode_toValue]
  rfl

namespace Store.Accounts

variable {document : Value}

theorem isSome_constraints (h : store.Accounts id) :
    (store.get? Layout.constraints (Layout.machineKey id)).isSome =
      (store.get? Layout.machines id).isSome := by
  cases h with
  | absent hnone =>
    obtain ⟨hmachine, hconstraints, -, -⟩ := Machine.forall_mem_places.mp hnone
    rw [hmachine, hconstraints]
  | present machine constraints hardware hmachine _ _ hconstraints _ _ _ =>
    rw [hmachine, hconstraints]
    rfl

theorem isSome_statuses (h : store.Accounts id) :
    (store.get? Layout.statuses (Layout.machineKey id)).isSome =
      (store.get? Layout.machines id).isSome := by
  cases h with
  | absent hnone =>
    obtain ⟨hmachine, -, hstatus, -⟩ := Machine.forall_mem_places.mp hnone
    rw [hmachine, hstatus]
  | present machine constraints hardware hmachine _ _ _ _ hstatus _ =>
    rw [hmachine, hstatus]
    rfl

/-- There is a record of an instance exactly where the machine has one. -/
theorem isSome_instanceData_iff (h : store.Accounts id) :
    (store.get? Layout.instanceData id).isSome = true ↔
      ∃ machine, store.machine? id = some machine ∧ machine.instanceId.isSome = true := by
  cases h with
  | absent hnone =>
    obtain ⟨hmachine, -, -, hinstance⟩ := Machine.forall_mem_places.mp hnone
    rw [hinstance, machine?, record?, hmachine]
    simp
  | present machine constraints hardware hmachine _ _ _ _ _ hinstance =>
    rw [hinstance, machine?_of_get? hmachine, Option.isSome_map]
    simp

theorem instance_eq (h : store.Accounts id)
    (hget : store.get? Layout.instanceData id = some document) :
    ∃ data machine, InstanceData.decode document = .ok data ∧ data.machineId = id ∧
      store.machine? id = some machine ∧ machine.instanceId = some data.instanceId := by
  cases h with
  | absent hnone =>
    obtain ⟨-, -, -, hinstance⟩ := Machine.forall_mem_places.mp hnone
    rw [hinstance] at hget
    cases hget
  | present machine constraints hardware hmachine _ _ _ _ _ hinstance =>
    rw [hinstance] at hget
    obtain ⟨instanceId, hsome, rfl⟩ := Option.map_eq_some_iff.mp hget
    exact ⟨_, machine, InstanceData.decode_toValue _, rfl, machine?_of_get? hmachine, hsome⟩

theorem exists_sound (h : store.Accounts id)
    (hget : store.get? Layout.machines id = some document) :
    ∃ machine, Machine.decode document = .ok machine ∧ machine.Sound := by
  cases h with
  | absent hnone =>
    rw [(Machine.forall_mem_places.mp hnone).1] at hget
    cases hget
  | present machine constraints hardware hmachine _ hsound _ _ _ _ =>
    obtain rfl := Option.some.inj (hmachine.symm.trans hget)
    exact ⟨machine, machine.decode_toValue, hsound⟩

theorem container_eq_none (h : store.Accounts id)
    (hget : store.get? Layout.constraints (Layout.machineKey id) = some document) :
    ∃ constraints, Constraints.decode document = .ok constraints ∧
      constraints.container = none := by
  cases h with
  | absent hnone =>
    rw [(Machine.forall_mem_places.mp hnone).2.1] at hget
    cases hget
  | present machine constraints hardware _ _ _ hconstraints hcontainer _ _ =>
    obtain rfl := Option.some.inj (hconstraints.symm.trans hget)
    exact ⟨constraints, constraints.decode_toValue, hcontainer⟩

end Store.Accounts

/-- A store that accounts for all machines, with a list of containers for each, is complete. -/
theorem Store.isComplete (haccounts : ∀ id, store.Accounts id)
    (hcontainers : ∀ id, (store.get? Layout.containerRefs id).isSome =
      (store.get? Layout.machines id).isSome) : store.IsComplete where
  containers := hcontainers
  constraints id := (haccounts id).isSome_constraints
  statuses id := (haccounts id).isSome_statuses
  instances id := (haccounts id).isSome_instanceData_iff
  instance_eq id _ hget := (haccounts id).instance_eq hget
  sound id _ hget := (haccounts id).exists_sound hget
  unplaced id _ hget := (haccounts id).container_eq_none hget

/-- In every reachable world a machine has all its records or none, and they agree. -/
theorem isComplete_of_reachable {world : World} (h : Reachable world) :
    world.store.IsComplete :=
  Store.isComplete h.accounts h.isSome_containerRefs

/-- The settled world, with another machine whose instance exists already. -/
def World.provided : World :=
  settled.perform none (.request usual (.addMachine
    { series := "jammy", jobs := [.hostUnits], instanceId := some ⟨"i-0"⟩, nonce := some "n" }))

/-- To the settled world a machine is added whose instance exists already. -/
theorem isComplete_settled :
    ∃ world document data machine, Reachable world ∧
      world.store.get? Layout.instanceData "3" = some document ∧
      InstanceData.decode document = .ok data ∧ data.machineId = "3" ∧
      world.store.machine? "3" = some machine ∧ machine.instanceId = some data.instanceId ∧
      (world.store.get? Layout.constraints (Layout.machineKey "3")).isSome = true := by
  have hreachable : Reachable World.provided := by
    unfold World.provided World.perform
    exact World.reachable_settled.carry _ none _ (World.permits_settled _)
  have hcomplete := isComplete_of_reachable hreachable
  obtain ⟨hinstance, hmachine⟩ :
      (World.provided.store.get? Layout.instanceData "3").isSome = true ∧
        (World.provided.store.get? Layout.machines "3").isSome = true := by decide +kernel
  obtain ⟨document, hdocument⟩ := Option.isSome_iff_exists.mp hinstance
  obtain ⟨data, machine, hdecode, hid, hfound, heq⟩ := hcomplete.instance_eq "3" document hdocument
  exact ⟨_, document, data, machine, hreachable, hdocument, hdecode, hid, hfound, heq,
    (hcomplete.constraints "3").trans hmachine⟩

end ControlPlane
