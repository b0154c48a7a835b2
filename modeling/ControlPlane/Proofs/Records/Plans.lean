import ControlPlane.Proofs.Records.Batches

/-!
# Plans as batches

What the plans of new machines insert, and where.  The operations of a plan
are those of a batch, whichever of the three ways to place a machine it is.
-/

namespace ControlPlane

open Json Store

variable {current : StateServers}

namespace Machine

theorem inserted_containerRefs_insertOps (machine : Machine) (template : Template) :
    Op.inserted Layout.containerRefs (machine.insertOps template) = [] := by
  apply Op.inserted_eq_nil
  intro op hop heq
  have hown := (mem_insertOps hop).1
  rw [heq] at hown
  exact absurd hown (by decide)

theorem names_reportOp (id : String) (kinds : List ContainerType) :
    (reportOp id kinds).names Layout.machines id = true :=
  Op.names_iff.mpr ⟨rfl, rfl⟩

end Machine

/-- The operations of the plan of a root machine insert its own records and its
list of containers. -/
theorem CreationPlan.mem_ofRoot_ops {template : Template} {id : String} {op : Op}
    (h : op ∈ (ofRoot template id).ops) :
    op.collection ∈ Layout.containerRefs :: Machine.ownCollections ∧
      ∃ document, op.effect = .insert document := by
  rcases List.mem_append.mp h with h | h
  · obtain ⟨hown, heffect⟩ := Machine.mem_insertOps h
    exact ⟨List.mem_cons_of_mem _ hown, heffect⟩
  · obtain rfl := List.mem_singleton.mp h
    exact ⟨List.mem_cons_self, _, rfl⟩

theorem CreationPlan.inserted_machines_ofRoot (template : Template) (id : String) :
    Op.inserted Layout.machines (ofRoot template id).ops =
      [(id, (template.machine id none).toValue)] := by
  change Op.inserted _ (_ ++ _) = _
  rw [Op.inserted_append, Machine.inserted_insertOps]
  rfl

theorem CreationPlan.inserted_containerRefs_ofRoot (template : Template) (id : String) :
    Op.inserted Layout.containerRefs (ofRoot template id).ops =
      [(id, ContainerRef.toValue { id, children := [] })] := by
  change Op.inserted _ (_ ++ _) = _
  rw [Op.inserted_append, Machine.inserted_containerRefs_insertOps]
  rfl

namespace ContainerRef

theorem names_insertOp (id : String) (children : List String) :
    (insertOp id children).names Layout.containerRefs id = true :=
  Op.names_iff.mpr ⟨rfl, rfl⟩

theorem names_adoptOp (parent child : String) :
    (adoptOp parent child).names Layout.containerRefs parent = true :=
  Op.names_iff.mpr ⟨rfl, rfl⟩

end ContainerRef

namespace CreationPlan

variable {plans : List CreationPlan}

/-- A batch of plans of root machines inserts documents, and then adds the state servers. -/
theorem mem_roots_ops
    (hroot : ∀ plan ∈ plans, ∃ template number,
      plan = ofRoot template (MachineId.root number))
    {op : Op} (h : op ∈ plans.flatMap (·.ops) ++
      (StateServers.addOp? (plans.map (·.machine)) current).toList) :
    (op.collection ∈ Layout.containerRefs :: Machine.ownCollections ∧
        ∃ document, op.effect = .insert document) ∨
      op.collection = Layout.stateServers := by
  rcases List.mem_append.mp h with h | h
  · obtain ⟨plan, hplan, hop⟩ := List.mem_flatMap.mp h
    obtain ⟨template, number, rfl⟩ := hroot plan hplan
    exact .inl (mem_ofRoot_ops hop)
  · exact .inr (StateServers.addOp?_eq_some (Option.mem_toList.mp h)).1

theorem inserted_roots {collection : String} (hcollection : collection ≠ Layout.stateServers)
    (f : Machine → Value)
    (hinserted : ∀ plan ∈ plans,
      Op.inserted collection plan.ops = [(plan.machine.id, f plan.machine)]) :
    Op.inserted collection (plans.flatMap (·.ops) ++
        (StateServers.addOp? (plans.map (·.machine)) current).toList) =
      (plans.map (·.machine)).map fun machine => (machine.id, f machine) := by
  have hnone : Op.inserted collection
      (StateServers.addOp? (plans.map (·.machine)) current).toList = [] := by
    apply Op.inserted_eq_nil
    intro op hop heq
    have hserver := (StateServers.addOp?_eq_some (Option.mem_toList.mp hop)).1
    exact hcollection (heq.symm.trans hserver)
  rw [Op.inserted_append, Op.inserted_flatMap, hnone, List.append_nil, List.map_map,
    List.map_eq_flatMap]
  exact List.flatMap_congr hinserted

/-- Plans of root machines are a batch together with their state servers. -/
theorem batch_of_roots
    (hroot : ∀ plan ∈ plans, ∃ template number,
      plan = ofRoot template (MachineId.root number)) (current : StateServers) :
    Batch (plans.map (·.machine)) current
      (plans.flatMap (·.ops) ++
        (StateServers.addOp? (plans.map (·.machine)) current).toList) where
  environment op hop heq := by
    rcases mem_roots_ops hroot hop with ⟨hplanned, -⟩ | hserver
    · exact absurd (heq ▸ hplanned) (by decide)
    · exact absurd (hserver.symm.trans heq) (by decide)
  onlyInsert op hop heq := by
    rcases mem_roots_ops hroot hop with ⟨-, heffect⟩ | hserver
    · exact heffect
    · exact absurd (hserver.symm.trans heq) (by decide)
  inserted_eq := by
    apply inserted_roots (by decide) Machine.toValue
    intro plan hplan
    obtain ⟨template, number, rfl⟩ := hroot plan hplan
    exact inserted_machines_ofRoot template (MachineId.root number)
  servers_eq := by
    rw [List.filter_append, List.filter_eq_nil_iff.mpr, List.filter_eq_self.mpr, List.nil_append]
    · intro op hop
      obtain ⟨hcollection, hid, -⟩ := StateServers.addOp?_eq_some (Option.mem_toList.mp hop)
      exact Op.names_iff.mpr ⟨hcollection, hid⟩
    · intro op hop hnames
      obtain ⟨plan, hplan, hop⟩ := List.mem_flatMap.mp hop
      obtain ⟨template, number, rfl⟩ := hroot plan hplan
      exact absurd ((Op.names_iff.mp hnames).1 ▸ (mem_ofRoot_ops hop).1) (by decide)

theorem batch_of_inside (parent : String) {template : Template} {id : String}
    {kind : ContainerType}
    (hserver : (template.machine id (some kind)).isStateServer = false) :
    Batch [template.machine id (some kind)] {} (ofInside template parent kind id).ops := by
  apply batch_of_not_server
  · intro op hop
    rcases List.mem_append.mp hop with hop | hop
    · exact .inl (Machine.mem_insertOps hop)
    · simp only [List.mem_cons, List.not_mem_nil, or_false] at hop
      rcases hop with rfl | rfl
      · exact .inr rfl
      · exact .inr rfl
  · change Op.inserted _ (_ ++ _) = _
    rw [Op.inserted_append, Machine.inserted_insertOps]
    rfl
  · simpa using hserver

/-- The operations that add a container insert its own records, and otherwise are about lists of
containers, none of which they remove. -/
theorem mem_ofInside_ops {template : Template} {parent id : String} {kind : ContainerType} {op : Op}
    (h : op ∈ (ofInside template parent kind id).ops) :
    op.collection ∈ Layout.containerRefs :: Machine.ownCollections ∧ op.effect ≠ .remove := by
  rcases List.mem_append.mp h with h | h
  · obtain ⟨hown, document, hinsert⟩ := Machine.mem_insertOps h
    exact ⟨List.mem_cons_of_mem _ hown, hinsert ▸ nofun⟩
  · simp only [List.mem_cons, List.not_mem_nil, or_false] at h
    rcases h with rfl | rfl
    · exact ⟨List.mem_cons_self, nofun⟩
    · exact ⟨List.mem_cons_self, nofun⟩

/-- The operations that add a container and its host insert documents only. -/
theorem mem_ofInsideNew_ops {template parentTemplate : Template} {parentId id : String}
    {kind : ContainerType} {op : Op}
    (h : op ∈ (ofInsideNew template parentTemplate kind parentId id).ops) :
    (op.collection ∈ Machine.ownCollections ∨ op.collection = Layout.containerRefs) ∧
      ∃ document, op.effect = .insert document := by
  rcases List.mem_append.mp h with h | h
  · rcases List.mem_append.mp h with h | h
    · obtain ⟨hown, heffect⟩ := Machine.mem_insertOps h
      exact ⟨.inl hown, heffect⟩
    · obtain ⟨hown, heffect⟩ := Machine.mem_insertOps h
      exact ⟨.inl hown, heffect⟩
  · simp only [List.mem_cons, List.not_mem_nil, or_false] at h
    rcases h with rfl | rfl
    · exact ⟨.inr rfl, _, rfl⟩
    · exact ⟨.inr rfl, _, rfl⟩

theorem inserted_containerRefs_ofInsideNew (template parentTemplate : Template)
    (kind : ContainerType) (parentId id : String) :
    Op.inserted Layout.containerRefs
        (ofInsideNew template parentTemplate kind parentId id).ops =
      [(id, ContainerRef.toValue { id, children := [] }),
        (parentId, ContainerRef.toValue { id := parentId, children := [id] })] := by
  change Op.inserted _ ((_ ++ _) ++ _) = _
  rw [Op.inserted_append, Op.inserted_append, Machine.inserted_containerRefs_insertOps,
    Machine.inserted_containerRefs_insertOps]
  rfl

theorem batch_of_insideNew {template parentTemplate : Template} {parentId id : String}
    {kind : ContainerType}
    (hparent : (parentTemplate.machine parentId none).isStateServer = false)
    (hserver : (template.machine id (some kind)).isStateServer = false) :
    Batch [parentTemplate.machine parentId none, template.machine id (some kind)] {}
      (ofInsideNew template parentTemplate kind parentId id).ops := by
  apply batch_of_not_server
  · intro op hop
    obtain ⟨hcollection, heffect⟩ := mem_ofInsideNew_ops hop
    exact hcollection.imp_left fun hown => ⟨hown, heffect⟩
  · change Op.inserted _ ((_ ++ _) ++ _) = _
    rw [Op.inserted_append, Op.inserted_append, Machine.inserted_insertOps,
      Machine.inserted_insertOps]
    rfl
  · simp [hparent, hserver]

end CreationPlan

end ControlPlane
