import ControlPlane.Proofs.Machine.Identity
import ControlPlane.Proofs.Records.Plans

/-!
# Transactions as changes of the records

Every transaction that a task submits and that takes place changes the records
in one of the ways of `Records.Change`.  The assertions of the transaction are
what makes this true: new documents must be absent, lists must have the length
that was read, and the environment must be alive.
-/

namespace ControlPlane

open Json Store

variable {limit : Nat} {past : History} {store after : Store} {records : Records}
  {ops : List Op} {current : StateServers}

namespace Submission

theorem change_roots {plans : List CreationPlan}
    (hplans : ∀ plan ∈ plans, ∃ raw, plan.IsRoot raw past)
    (hgrowth : (∀ plan ∈ plans, plan.machine.isStateServer = false) ∨
      current.WereRead past ∧ current.Admits limit (plans.map (·.machine)))
    (hholds : store.Holds records) (hconsistent : records.Consistent)
    (hcommit : store.transact (Environment.checkAliveOp :: (plans.flatMap (·.ops) ++
      (StateServers.addOp? (plans.map (·.machine)) current).toList)) = .ok after) :
    after.Holds (records.add (plans.map (·.machine))) ∧
      records.Change limit (records.add (plans.map (·.machine))) := by
  have hroot := CreationPlan.exists_ofRoot hplans
  have hbatch := CreationPlan.batch_of_roots hroot current
  apply hbatch.change hholds hcommit hconsistent
  · rcases hgrowth with hnone | ⟨-, hadmits⟩
    · exact .inl (by simpa using hnone)
    · exact .inr hadmits
  · intro machine hmachine
    obtain ⟨plan, hplan, rfl⟩ := List.mem_map.mp hmachine
    obtain ⟨template, number, rfl⟩ := hroot plan hplan
    exact .root number rfl rfl
  · have hchildless : ∀ host, Records.childrenAmong (plans.map (·.machine)) host = [] := by
      intro host
      apply Records.childrenAmong_eq_nil
      intro machine hmachine
      obtain ⟨plan, hplan, rfl⟩ := List.mem_map.mp hmachine
      obtain ⟨template, number, rfl⟩ := hroot plan hplan
      exact ne_of_eq_of_ne (MachineId.parent?_root number) (Option.some_ne_none host).symm
    apply Batch.children_of_onlyInsert hholds hcommit
    · intro op hop heq
      rcases CreationPlan.mem_roots_ops hroot hop with ⟨-, heffect⟩ | hserver
      · exact heffect
      · exact absurd (hserver.symm.trans heq) (by decide)
    · intro id
      rw [CreationPlan.inserted_roots (by decide)
        fun machine => ContainerRef.toValue { id := machine.id, children := [] }]
      · rw [hchildless]
        exact Table.get?_map_key (fun id => ContainerRef.toValue { id, children := [] }) _ id
      · intro plan hplan
        obtain ⟨template, number, rfl⟩ := hroot plan hplan
        exact CreationPlan.inserted_containerRefs_ofRoot template (MachineId.root number)
    · intro id _
      exact hchildless id

theorem filter_names_adopt {parent child : String} (hne : parent ≠ child) (id : String) :
    [ContainerRef.adoptOp parent child, ContainerRef.insertOp child []].filter
        (·.names Layout.containerRefs id) =
      if id = child then [ContainerRef.insertOp child []]
      else if id = parent then [ContainerRef.adoptOp parent child]
      else [] := by
  by_cases hself : id = child
  · subst hself
    rw [if_pos rfl, List.filter_cons_of_neg (Op.not_names_of_id_ne hne _),
      List.filter_cons_of_pos (ContainerRef.names_insertOp _ _), List.filter_nil]
  · have hinsert : ¬(ContainerRef.insertOp child []).names Layout.containerRefs id = true :=
      Op.not_names_of_id_ne (Ne.symm hself) _
    rw [if_neg hself]
    by_cases hhost : id = parent
    · subst hhost
      rw [if_pos rfl, List.filter_cons_of_pos (ContainerRef.names_adoptOp _ _),
        List.filter_cons_of_neg hinsert, List.filter_nil]
    · rw [if_neg hhost, List.filter_cons_of_neg (Op.not_names_of_id_ne (Ne.symm hhost) _),
        List.filter_cons_of_neg hinsert, List.filter_nil]

theorem childrenAmong_singleton {machine : Machine} {parent : String}
    (hparent : machine.parent? = some parent) (host : String) :
    Records.childrenAmong [machine] host = if host = parent then [machine.id] else [] := by
  by_cases hhost : host = parent
  · simp [Records.childrenAmong, hparent, hhost]
  · simp [Records.childrenAmong, hparent, hhost, Ne.symm hhost]

/-- A container that is adopted has a host, and goes to the end of its list. -/
theorem children_of_adopt (machine : Machine) {template : Template} {parent : String}
    (hholds : store.Holds records) (hconsistent : records.Consistent)
    (hcommit : store.transact (Environment.checkAliveOp ::
      (machine.insertOps template ++ [ContainerRef.adoptOp parent machine.id,
        ContainerRef.insertOp machine.id []])) = .ok after)
    (hfresh : records.machine? machine.id = none) (hparent : machine.parent? = some parent)
    (hne : parent ≠ machine.id) :
    (records.children? parent).isSome = true ∧
      ∀ id, after.get? Layout.containerRefs id =
        ((records.add [machine]).children? id).map fun children =>
          ContainerRef.toValue { id, children } := by
  obtain ⟨hcheck, happly⟩ := transact_eq_ok_iff.mp hcommit
  have hpresent := checkFrom_eq_ok_iff.mp hcheck (ContainerRef.adoptOp parent machine.id)
    (List.mem_cons_of_mem _ (List.mem_append_right _ List.mem_cons_self))
  change Assertion.failure? (store.get? Layout.containerRefs parent) .present = none at hpresent
  rw [hholds.children] at hpresent
  cases hchildren : records.children? parent with
  | none =>
    rw [hchildren] at hpresent
    cases hpresent
  | some children =>
    refine ⟨rfl, ?_⟩
    intro id
    have hfold := foldlM_effects_eq_ok happly Layout.containerRefs id
    rw [List.filter_cons_of_neg (Op.not_names_of_collection_ne (by decide) id),
      List.filter_append, Machine.filter_names_insertOps (by decide), List.nil_append,
      filter_names_adopt hne, hholds.children] at hfold
    change _ = Option.map _ (Option.map _ (if id ∈ [machine.id] then some [] else _))
    rw [childrenAmong_singleton hparent]
    by_cases hself : id = machine.id
    · rw [if_pos hself, foldlM_effects_singleton] at hfold
      rw [(apply_insert_eq_ok hfold).2, hself, if_pos List.mem_cons_self, if_neg (Ne.symm hne)]
      rfl
    · have hold : id ∉ [machine.id] := by simpa using hself
      rw [if_neg hself] at hfold
      rw [if_neg hold]
      by_cases hhost : id = parent
      · subst hhost
        have hnew : machine.id ∉ children := by
          intro hmem
          have hsome := hconsistent.child id children machine.id hchildren hmem
          rw [hfresh] at hsome
          cases hsome
        rw [if_pos rfl, foldlM_effects_singleton, hchildren, Option.map_some,
          ContainerRef.apply_adoptOp hnew] at hfold
        rw [if_pos rfl, hchildren]
        exact (Except.ok.inj hfold).symm
      · rw [if_neg hhost] at hfold
        simp only [if_neg hhost, List.append_nil]
        rw [← Except.ok.inj hfold, Option.map_map]
        rfl

/-- A container that is added to a host that exists. -/
theorem change_inside {raw template : Template} {parent : String} {kind : ContainerType}
    {number : Nat} (haccepted : raw.Accepted false past template) (hkind : kind ≠ .noContainer)
    (hholds : store.Holds records) (hconsistent : records.Consistent)
    (hcommit : store.transact (Environment.checkAliveOp ::
      (CreationPlan.ofInside template parent kind
        (MachineId.container parent kind number)).ops) = .ok after) :
    ∃ machine, after.Holds (records.add [machine]) ∧
      records.Change limit (records.add [machine]) := by
  let id := MachineId.container parent kind number
  have hserver := haccepted.isStateServer_eq_false id (some kind)
  have hbatch := CreationPlan.batch_of_inside parent hserver
  obtain ⟨-, hfresh, -⟩ := hbatch.machine_add hholds hcommit
  have hne : parent ≠ id := (MachineId.container_ne_parent parent kind number).symm
  have hparent : MachineId.parent? id = some parent :=
    MachineId.parent?_container parent kind number
  obtain ⟨hhost, hchildren⟩ := children_of_adopt (template.machine id (some kind))
    hholds hconsistent hcommit (hfresh id List.mem_cons_self) hparent hne
  refine ⟨template.machine id (some kind),
    hbatch.change hholds hcommit hconsistent (.inl (by simpa using hserver)) ?_ hchildren⟩
  intro machine hmachine
  obtain rfl := List.mem_singleton.mp hmachine
  refine .container parent kind number rfl rfl hkind ?_
  change (Option.map _ (if parent ∈ [id] then some [] else records.children? parent)).isSome = true
  rw [if_neg (by simpa using hne), Option.isSome_map]
  exact hhost

/-- A container that is added together with its host. -/
theorem change_insideNew {raw template rawParent parentTemplate : Template}
    {kind : ContainerType} {parentNumber number : Nat}
    (haccepted : raw.Accepted false past template)
    (hparent : rawParent.Accepted false past parentTemplate) (hkind : kind ≠ .noContainer)
    (hholds : store.Holds records) (hconsistent : records.Consistent)
    (hcommit : store.transact (Environment.checkAliveOp ::
      (CreationPlan.ofInsideNew template parentTemplate kind (MachineId.root parentNumber)
        (MachineId.container (MachineId.root parentNumber) kind number)).ops) = .ok after) :
    ∃ added, after.Holds (records.add added) ∧ records.Change limit (records.add added) := by
  let parentId := MachineId.root parentNumber
  let id := MachineId.container parentId kind number
  let parent := parentTemplate.machine parentId none
  let machine := template.machine id (some kind)
  have hparentServer := hparent.isStateServer_eq_false parentId none
  have hserver := haccepted.isStateServer_eq_false id (some kind)
  have hbatch := CreationPlan.batch_of_insideNew hparentServer hserver
  have hne : id ≠ parentId := MachineId.container_ne_parent parentId kind number
  have hroot : parent.parent? = none := MachineId.parent?_root parentNumber
  have hcontainer : machine.parent? = some parentId :=
    MachineId.parent?_container parentId kind number
  have hown : Records.childrenAmong [parent, machine] parentId = [id] := by
    rw [Records.childrenAmong, List.filter_cons_of_neg (by simp [hroot]),
      List.filter_cons_of_pos (by simp [hcontainer])]
    rfl
  have hamong : ∀ host, host ≠ parentId → Records.childrenAmong [parent, machine] host = [] := by
    intro host hhost
    apply Records.childrenAmong_eq_nil
    intro other hother heq
    simp only [List.mem_cons, List.not_mem_nil, or_false] at hother
    rcases hother with rfl | rfl
    · exact Option.some_ne_none host (heq.symm.trans hroot)
    · exact hhost (Option.some.inj (heq.symm.trans hcontainer))
  refine ⟨[parent, machine], hbatch.change hholds hcommit hconsistent ?_ ?_ ?_⟩
  · exact .inl (by simp [hparentServer, hserver])
  · intro other hother
    simp only [List.mem_cons, List.not_mem_nil, or_false] at hother
    rcases hother with rfl | rfl
    · exact .root parentNumber rfl rfl
    · refine .container parentId kind number rfl rfl hkind ?_
      change (Option.map _ (if parentId ∈ [parentId, id] then some [] else _)).isSome = true
      rw [if_pos List.mem_cons_self]
      rfl
  · apply Batch.children_of_onlyInsert hholds hcommit
    · intro op hop _
      exact (CreationPlan.mem_ofInsideNew_ops hop).2
    · intro other
      rw [CreationPlan.inserted_containerRefs_ofInsideNew]
      change Table.get? other [(id, _), (parentId, _)] = if other ∈ [parentId, id] then _ else _
      by_cases hself : other = id
      · subst hself
        rw [Table.get?, if_pos rfl, if_pos (List.mem_cons_of_mem _ List.mem_cons_self)]
        exact congrArg (fun children => some (ContainerRef.toValue { id, children }))
          (hamong id hne).symm
      · by_cases hhost : other = parentId
        · subst hhost
          rw [Table.get?, if_neg hne, Table.get?, if_pos rfl, if_pos List.mem_cons_self]
          exact congrArg (fun children => some (ContainerRef.toValue { id := parentId, children }))
            hown.symm
        · simp [Table.get?, hself, hhost, Ne.symm hself, Ne.symm hhost]
    · intro other hother
      apply hamong
      rintro rfl
      exact hother List.mem_cons_self

theorem change_establish {uuid : Uuid} {constraints : Constraints}
    (hholds : store.Holds records)
    (hcommit : store.transact
      [(Environment.fresh uuid).insertOp, Environment.insertConstraintsOp constraints,
        StateServers.insertOp] = .ok after) :
    after.Holds records.establish ∧ records.Change limit records.establish := by
  obtain ⟨-, happly⟩ := transact_eq_ok_iff.mp hcommit
  have hcollections : ∀ collection ∈ [Layout.machines, Layout.containerRefs],
      collection ∉ [Layout.environments, Layout.constraints, Layout.stateServers] := by decide
  have hmachines := get?_eq_of_notMem_collections happly (hcollections Layout.machines (by simp))
  have hrefs := get?_eq_of_notMem_collections happly (hcollections Layout.containerRefs (by simp))
  have henvironment := foldlM_effects_eq_ok happly Layout.environments Layout.environmentKey
  have hservers := foldlM_effects_eq_ok happly Layout.stateServers Layout.environmentKey
  change [(Environment.fresh uuid).insertOp].foldlM _ _ = _ at henvironment
  change [StateServers.insertOp].foldlM _ _ = _ at hservers
  rw [foldlM_effects_singleton] at henvironment hservers
  obtain ⟨hnone, hsome⟩ := apply_insert_eq_ok henvironment
  obtain ⟨-, hlists⟩ := apply_insert_eq_ok hservers
  constructor
  · refine ⟨?_, fun id => ?_, hholds.machine_id, fun id => ?_, hlists⟩
    · rw [hsome]
      rfl
    · exact (hmachines id).trans (hholds.machine id)
    · exact (hrefs id).trans (hholds.children id)
  · apply Records.Change.establish
    rw [← hholds.environment, hnone]
    rfl

/-- The end of an environment, of which the records take no notice. -/
theorem change_destroy (hholds : store.Holds records)
    (hcommit : store.transact [Environment.destroyOp] = .ok after) : after.Holds records := by
  obtain ⟨-, happly⟩ := transact_eq_ok_iff.mp hcommit
  have hcollections : ∀ collection ∈
      [Layout.machines, Layout.containerRefs, Layout.stateServers],
      collection ∉ [Layout.environments] := by decide
  have hfold := foldlM_effects_eq_ok happly Layout.environments Layout.environmentKey
  change [Environment.destroyOp].foldlM _ _ = _ at hfold
  rw [foldlM_effects_singleton] at hfold
  obtain ⟨hbefore, hafter⟩ := isSome_of_apply_update hfold
  apply hholds.congr (hafter.trans hbefore.symm)
  intro collection hcollection
  exact get?_eq_of_notMem_collections happly (hcollections collection hcollection)

/-- New constraints of the environment, of which the records take no notice. -/
theorem change_setConstraints {constraints : Constraints} (hholds : store.Holds records)
    (hcommit : store.transact
      [Environment.checkAliveOp, Environment.replaceConstraintsOp constraints] = .ok after) :
    after.Holds records := by
  have hops : ∀ op ∈ [Environment.replaceConstraintsOp constraints],
      op.collection ≠ Layout.environments := by
    intro op hop
    rw [List.mem_singleton.mp hop]
    change Layout.constraints ≠ Layout.environments
    decide
  have hcollections : ∀ collection ∈
      [Layout.machines, Layout.containerRefs, Layout.stateServers],
      collection ∉ [Layout.environments, Layout.constraints] := by decide
  obtain ⟨-, happly⟩ := transact_eq_ok_iff.mp hcommit
  obtain ⟨henvironment, -⟩ := transact_checkAlive hcommit hops
  apply hholds.congr (congrArg Option.isSome henvironment)
  intro collection hcollection
  exact get?_eq_of_notMem_collections happly (hcollections collection hcollection)

theorem change_report {id : String} {kinds : List ContainerType} (hholds : store.Holds records)
    (hcommit : store.transact [Environment.checkAliveOp, Machine.reportOp id kinds] = .ok after) :
    ∃ machine, after.Holds (records.replace (machine.reporting kinds)) ∧
      records.machine? machine.id = some machine := by
  have hops : ∀ op ∈ [Machine.reportOp id kinds], op.collection ≠ Layout.environments := by
    intro op hop
    rw [List.mem_singleton.mp hop]
    change Layout.machines ≠ Layout.environments
    decide
  have hcollections : ∀ collection ∈ [Layout.containerRefs, Layout.stateServers],
      collection ∉ [Layout.environments, Layout.machines] := by decide
  obtain ⟨-, happly⟩ := transact_eq_ok_iff.mp hcommit
  obtain ⟨henvironment, -⟩ := transact_checkAlive hcommit hops
  have hfold := fun other => foldlM_effects_eq_ok happly Layout.machines other
  have hreport := hfold id
  rw [List.filter_cons_of_neg (Op.not_names_of_collection_ne (by decide) id),
    List.filter_cons_of_pos (Machine.names_reportOp id kinds), List.filter_nil,
    foldlM_effects_singleton, hholds.machine] at hreport
  cases hmachine : records.machine? id with
  | none =>
    rw [hmachine] at hreport
    cases hreport
  | some machine =>
    have hid := hholds.machine_id id machine hmachine
    subst hid
    rw [hmachine, Option.map_some, Machine.apply_reportOp] at hreport
    refine ⟨machine, ?_, hmachine⟩
    apply hholds.replace rfl (congrArg Option.isSome henvironment)
      (Except.ok.inj hreport).symm
    · intro other hother
      have hunnamed := hfold other
      rw [List.filter_cons_of_neg (Op.not_names_of_collection_ne (by decide) other),
        List.filter_cons_of_neg (Op.not_names_of_id_ne (Ne.symm hother) _),
        List.filter_nil] at hunnamed
      exact (Except.ok.inj hunnamed).symm
    · intro collection hcollection
      exact get?_eq_of_notMem_collections happly (hcollections collection hcollection)

/-- Every transaction that takes place changes the records in one of the ways there are. -/
theorem change (h : Submission limit past ops) (hholds : store.Holds records)
    (hconsistent : records.Consistent) (hcommit : store.transact ops = .ok after) :
    ∃ later, after.Holds later ∧ records.Change limit later := by
  cases h with
  | establish uuid constraints => exact ⟨_, change_establish hholds hcommit⟩
  | destroy => exact ⟨records, change_destroy hholds hcommit, .same⟩
  | setConstraints constraints => exact ⟨records, change_setConstraints hholds hcommit, .same⟩
  | report id kinds =>
    obtain ⟨machine, hafter, hmachine⟩ := change_report hholds hcommit
    exact ⟨_, hafter, .report machine kinds hmachine⟩
  | roots plans current hplans hgrowth =>
    exact ⟨_, change_roots hplans hgrowth hholds hconsistent hcommit⟩
  | inside raw template parent kind number host haccepted hinstance hkind hhost hsupports hnumber =>
    obtain ⟨machine, hchange⟩ := change_inside haccepted hkind hholds hconsistent hcommit
    exact ⟨_, hchange⟩
  | insideNew raw template rawParent parentTemplate kind parentNumber number haccepted hparent
      hinstance hparentInstance hkind hparentNumber hnumber =>
    obtain ⟨added, hchange⟩ := change_insideNew haccepted hparent hkind hholds hconsistent hcommit
    exact ⟨_, hchange⟩

end Submission

end ControlPlane
