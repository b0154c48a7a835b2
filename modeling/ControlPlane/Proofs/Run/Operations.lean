import ControlPlane.Proofs.Records.Forms

/-!
# The operations of transactions

Whatever a task submits, its operations are of a few kinds: the check that the
environment is alive, insertions of documents that have the form of their
collection, and five updates.  An update asserts that its document is there,
and a document of the right form keeps it.
-/

namespace ControlPlane

open Json Store

/-- An operation that a transaction of a task may have, with the kind of the record it is about. -/
inductive Store.Op.Known : ResourceType → Op → Prop where
  | checkAlive : Known .environment Environment.checkAliveOp
  | insert (type : ResourceType) (id : String) {document : Value} (hform : type.HasForm document) :
      Known type (.insert type.collection id document)
  | destroy : Known .environment Environment.destroyOp
  | replaceConstraints (constraints : Constraints) :
      Known .constraints (Environment.replaceConstraintsOp constraints)
  | report (id : String) (kinds : List ContainerType) : Known .machine (Machine.reportOp id kinds)
  | adopt (parent child : String) : Known .containerRef (ContainerRef.adoptOp parent child)
  | addServers {machines : List Machine} {current : StateServers} {op : Op}
      (h : StateServers.addOp? machines current = some op) : Known .stateServerInfo op

variable {type : ResourceType} {op : Op} {ops : List Op} {limit : Nat} {past : History}

/-! ## What is submitted -/

theorem Machine.known_insertOps (machine : Machine) (template : Template) :
    ∀ op ∈ machine.insertOps template, ∃ type, op.Known type := by
  intro op hop
  rcases List.mem_append.mp hop with hop | hop
  · simp only [List.mem_cons, List.not_mem_nil, or_false] at hop
    rcases hop with rfl | rfl | rfl
    · exact ⟨.machine, .insert .machine _ ⟨machine, rfl⟩⟩
    · exact ⟨.constraints,
        .insert .constraints _ ⟨template.constraints, template.constraints.storedIn_toValue⟩⟩
    · exact ⟨.status, .insert .status _ ⟨initialStatus, rfl⟩⟩
  · obtain ⟨instanceId, -, rfl⟩ := Option.map_eq_some_iff.mp (Option.mem_toList.mp hop)
    exact ⟨.instanceData, .insert .instanceData _ ⟨_, rfl⟩⟩

theorem ContainerRef.known_insertOp (id : String) (children : List String) :
    (insertOp id children).Known .containerRef :=
  .insert .containerRef id ⟨_, rfl⟩

namespace CreationPlan

theorem known_ofRoot (template : Template) (id : String) :
    ∀ op ∈ (ofRoot template id).ops, ∃ type, op.Known type := by
  intro op hop
  rcases List.mem_append.mp hop with hop | hop
  · exact Machine.known_insertOps _ template op hop
  · rw [List.mem_singleton.mp hop]
    exact ⟨_, ContainerRef.known_insertOp _ _⟩

theorem known_roots {plans : List CreationPlan}
    (hroot : ∀ plan ∈ plans, ∃ template number, plan = ofRoot template (MachineId.root number))
    (current : StateServers) :
    ∀ op ∈ plans.flatMap (·.ops) ++
        (StateServers.addOp? (plans.map (·.machine)) current).toList, ∃ type, op.Known type := by
  rw [List.forall_mem_append]
  constructor
  · intro op hop
    obtain ⟨plan, hplan, hop⟩ := List.mem_flatMap.mp hop
    obtain ⟨template, number, rfl⟩ := hroot plan hplan
    exact known_ofRoot _ _ op hop
  · intro op hop
    exact ⟨_, .addServers (Option.mem_toList.mp hop)⟩

theorem known_ofInside (template : Template) (parent : String) (kind : ContainerType)
    (id : String) : ∀ op ∈ (ofInside template parent kind id).ops, ∃ type, op.Known type := by
  intro op hop
  rcases List.mem_append.mp hop with hop | hop
  · exact Machine.known_insertOps _ template op hop
  · simp only [List.mem_cons, List.not_mem_nil, or_false] at hop
    rcases hop with rfl | rfl
    · exact ⟨_, .adopt parent _⟩
    · exact ⟨_, ContainerRef.known_insertOp _ _⟩

theorem known_ofInsideNew (template parentTemplate : Template) (kind : ContainerType)
    (parentId id : String) :
    ∀ op ∈ (ofInsideNew template parentTemplate kind parentId id).ops, ∃ type, op.Known type := by
  intro op hop
  rcases List.mem_append.mp hop with hop | hop
  · rcases List.mem_append.mp hop with hop | hop
    · exact Machine.known_insertOps _ parentTemplate op hop
    · exact Machine.known_insertOps _ template op hop
  · simp only [List.mem_cons, List.not_mem_nil, or_false] at hop
    rcases hop with rfl | rfl
    · exact ⟨_, ContainerRef.known_insertOp _ _⟩
    · exact ⟨_, ContainerRef.known_insertOp _ _⟩

end CreationPlan

/-- All operations that are ever submitted are of the known kinds. -/
theorem Submission.known (h : Submission limit past ops) : ∀ op ∈ ops, ∃ type, op.Known type := by
  have halive : ∃ type, Environment.checkAliveOp.Known type := ⟨_, .checkAlive⟩
  cases h with
  | establish uuid constraints =>
    simp only [List.forall_mem_cons]
    exact ⟨⟨_, .insert .environment _ ⟨_, rfl⟩⟩,
      ⟨_, .insert .constraints _ ⟨constraints, constraints.storedIn_toValue⟩⟩,
      ⟨_, .insert .stateServerInfo _ ⟨_, rfl⟩⟩, nofun⟩
  | destroy =>
    simp only [List.forall_mem_cons]
    exact ⟨⟨_, .destroy⟩, nofun⟩
  | setConstraints constraints =>
    simp only [List.forall_mem_cons]
    exact ⟨halive, ⟨_, .replaceConstraints constraints⟩, nofun⟩
  | report id kinds =>
    simp only [List.forall_mem_cons]
    exact ⟨halive, ⟨_, .report id kinds⟩, nofun⟩
  | roots plans current hplans hgrowth =>
    rw [List.forall_mem_cons]
    exact ⟨halive, CreationPlan.known_roots (CreationPlan.exists_ofRoot hplans) current⟩
  | inside raw template parent kind number host haccepted hinstance hkind hhost hsupports hnumber =>
    rw [List.forall_mem_cons]
    exact ⟨halive, CreationPlan.known_ofInside _ _ _ _⟩
  | insideNew raw template rawParent parentTemplate kind parentNumber number haccepted hparent
      hinstance hparentInstance hkind hparentNumber hnumber =>
    rw [List.forall_mem_cons]
    exact ⟨halive, CreationPlan.known_ofInsideNew _ _ _ _ _⟩

/-! ## What the updates do -/

namespace Environment

/-- All the fields that constraints are stored with are overwritten, and no others. -/
theorem replacedFields_eq (constraints : Constraints) :
    replacedFields = constraints.toFields.map (·.1) := rfl

/-- A field is overwritten with what it is set to, and with null where it is unset. -/
theorem replaceConstraintsOp_eq (constraints : Constraints) :
    replaceConstraintsOp constraints =
      .update Layout.constraints Layout.environmentKey .present
        (constraints.toFields.map fun field => .set field.1 (field.2.getD .null)) := by
  have hnodup := constraints.toFields_nodup
  rw [replaceConstraintsOp, replacedFields_eq constraints, List.map_map]
  congr 1
  apply List.map_congr_left
  intro field hfield
  rw [Function.comp_apply, Constraints.toValue, Value.field_ofFields hnodup,
    Table.get?_of_mem hnodup hfield, Option.join_some]

theorem apply_replaceConstraintsOp (constraints : Constraints)
    {members : List (String × Value)} (hascending : Table.Ascending members) :
    ∃ members', (replaceConstraintsOp constraints).effect.apply (some (.object members)) =
      .ok (some (.object members')) ∧ constraints.StoredIn members' := by
  let entries := constraints.toFields.map fun field => (field.1, field.2.getD .null)
  have hkeys : (entries.map (·.1)).Nodup := by
    rw [List.map_map]
    exact constraints.toFields_nodup
  have hfold := Update.foldlM_set entries members
  rw [List.map_map] at hfold
  rw [replaceConstraintsOp_eq]
  refine ⟨_, Effect.apply_update hfold, hascending.foldl_insert entries, ?_⟩
  intro entry hentry
  have hmem : (entry.1, entry.2.getD .null) ∈ entries := List.mem_map.mpr ⟨entry, hentry, rfl⟩
  rw [Table.get?_foldl_insert hkeys, Table.get?_of_mem hkeys hmem]
  cases hvalue : entry.2 with
  | some value => exact .inl rfl
  | none => exact .inr ⟨rfl, rfl⟩

end Environment

theorem ContainerRef.exists_apply_adoptOp (ref : ContainerRef) (parent child : String) :
    ∃ ref' : ContainerRef, (adoptOp parent child).effect.apply (some ref.toValue) =
      .ok (some ref'.toValue) := by
  obtain ⟨children, hchildren⟩ := exists_union_map_string ref.children [child]
  have happly : Update.apply ref.toValue (.addToSet "children" [.string child]) =
      .ok (toValue { id := ref.id, children }) := by
    refine Update.apply_addToSet_ofFields (ref.children.map .string) rfl ?_
    rw [List.map_singleton] at hchildren
    rw [hchildren]
    exact replaces_of_nodup [("_id", some (.string ref.id))] ref.toFields_nodup _
  refine ⟨{ id := ref.id, children }, ?_⟩
  apply Effect.apply_update
  rw [List.foldlM_cons, happly]
  rfl

theorem StateServers.exists_apply_addOp? {machines : List Machine} {current : StateServers}
    (h : addOp? machines current = some op) (record : StateServersRecord) :
    ∃ record' : StateServersRecord,
      op.effect.apply (some record.toValue) = .ok (some record'.toValue) := by
  obtain ⟨-, -, -, heffect⟩ := addOp?_eq_some h
  obtain ⟨machineIds, hmachines⟩ :=
    exists_union_map_string record.servers.machineIds (ofMachines machines).machineIds
  obtain ⟨votingIds, hvoting⟩ :=
    exists_union_map_string record.servers.votingMachineIds (ofMachines machines).votingMachineIds
  let middle : StateServersRecord :=
    { record with servers := { record.servers with machineIds } }
  let later : StateServersRecord :=
    { record with servers := { machineIds, votingMachineIds := votingIds } }
  have hfirst : Update.apply record.toValue
      (.addToSet "machine_ids" ((ofMachines machines).machineIds.map .string)) =
        .ok middle.toValue := by
    refine Update.apply_addToSet_ofFields (record.servers.machineIds.map .string) rfl ?_
    rw [hmachines]
    exact replaces_of_nodup [("_id", some (.string record.id))] record.toFields_nodup _
  have hsecond : Update.apply middle.toValue
      (.addToSet "voting_machine_ids" ((ofMachines machines).votingMachineIds.map .string)) =
        .ok later.toValue := by
    refine Update.apply_addToSet_ofFields (record.servers.votingMachineIds.map .string) rfl ?_
    rw [hvoting]
    exact replaces_of_nodup
      [("_id", some (.string record.id)), ("machine_ids", some (.strings machineIds))]
      middle.toFields_nodup _
  refine ⟨later, ?_⟩
  rw [heffect]
  apply Effect.apply_update
  simp only [List.foldlM_cons, List.foldlM_nil, hfirst, hsecond, bind, Except.bind, pure,
    Except.pure]

namespace Store.Op.Known

theorem collection_eq (h : Known type op) : op.collection = type.collection := by
  cases h with
  | addServers h => exact (StateServers.addOp?_eq_some h).1
  | _ => rfl

/-- An update asserts that its document is there. -/
theorem isSome_of_update {document? : Option Value} (h : Known type op)
    (hupdate : ∃ updates, op.effect = .update updates)
    (hassertion : op.assertion.failure? document? = none) : document?.isSome = true := by
  obtain ⟨updates, hupdate⟩ := hupdate
  cases document? with
  | some document => rfl
  | none =>
    cases h with
    | checkAlive => cases hupdate
    | insert type id hform => cases hupdate
    | addServers h =>
      obtain ⟨-, -, hfields, -⟩ := StateServers.addOp?_eq_some h
      rw [hfields] at hassertion
      cases hassertion
    | _ => cases hassertion

/-- An update of a document that has the form of its kind succeeds, and keeps the form. -/
theorem apply_update {document : Value} (h : Known type op) (hform : type.HasForm document)
    (hupdate : ∃ updates, op.effect = .update updates) :
    ∃ document', op.effect.apply (some document) = .ok (some document') ∧
      type.HasForm document' := by
  cases h with
  | checkAlive =>
    obtain ⟨updates, hupdate⟩ := hupdate
    cases hupdate
  | insert type id hform =>
    obtain ⟨updates, hupdate⟩ := hupdate
    cases hupdate
  | destroy =>
    obtain ⟨environment, rfl⟩ := hform
    exact ⟨_, environment.apply_destroyOp, _, rfl⟩
  | replaceConstraints constraints =>
    obtain ⟨present, members, rfl, hstored⟩ := hform
    obtain ⟨members', happly, hstored'⟩ :=
      Environment.apply_replaceConstraintsOp constraints hstored.ascending
    exact ⟨_, happly, constraints, members', rfl, hstored'⟩
  | report id kinds =>
    obtain ⟨machine, rfl⟩ := hform
    exact ⟨_, machine.apply_reportOp id kinds, _, rfl⟩
  | adopt parent child =>
    obtain ⟨ref, rfl⟩ := hform
    obtain ⟨ref', happly⟩ := ref.exists_apply_adoptOp parent child
    exact ⟨_, happly, ref', rfl⟩
  | addServers h =>
    obtain ⟨record, rfl⟩ := hform
    obtain ⟨record', happly⟩ := StateServers.exists_apply_addOp? h record
    exact ⟨_, happly, record', rfl⟩

/-- The effect of an operation succeeds and keeps the form of the document, unless a document is
inserted where there is one. -/
theorem apply_eq {document? : Option Value} (h : Known type op)
    (hform : ∀ document, document? = some document → type.HasForm document)
    (hpresent : (∃ updates, op.effect = .update updates) → document?.isSome = true) :
    op.effect.apply document? = .error .occupied ∨
      ∃ document?', op.effect.apply document? = .ok document?' ∧
        (document?.isSome = true → document?'.isSome = true) ∧
        ∀ document, document?' = some document → type.HasForm document := by
  by_cases hupdate : ∃ updates, op.effect = .update updates
  · obtain ⟨document, rfl⟩ := Option.isSome_iff_exists.mp (hpresent hupdate)
    obtain ⟨document', happly, hform'⟩ := h.apply_update (hform document rfl) hupdate
    refine .inr ⟨some document', happly, fun _ => rfl, ?_⟩
    rintro _ ⟨⟩
    exact hform'
  · cases h with
    | checkAlive => exact .inr ⟨document?, rfl, fun hsome => hsome, hform⟩
    | @insert _ id document hinserted =>
      have hobject := hinserted.isObject
      cases document? with
      | some present =>
        refine .inl ?_
        change Effect.apply _ (.insert document) = _
        simp [Effect.apply, hobject]
      | none =>
        refine .inr ⟨some document, ?_, fun _ => rfl, ?_⟩
        · change Effect.apply _ (.insert document) = _
          simp [Effect.apply, hobject]
        · rintro _ ⟨⟩
          exact hinserted
    | addServers h => exact absurd ⟨_, (StateServers.addOp?_eq_some h).2.2.2⟩ hupdate
    | _ => exact absurd ⟨_, rfl⟩ hupdate

/-- What is updated is the environment, its constraints, a machine, a list of containers or the
lists of state servers. -/
theorem cases_of_update (h : Known type op) (hupdate : ∃ updates, op.effect = .update updates) :
    type = .environment ∨ type = .constraints ∧ op.id = Layout.environmentKey ∨
      (type = .machine ∧ ∃ id kinds, op = Machine.reportOp id kinds) ∨
      type = .containerRef ∨ type = .stateServerInfo := by
  cases h with
  | insert type id hform =>
    obtain ⟨updates, hupdate⟩ := hupdate
    cases hupdate
  | report id kinds => exact .inr (.inr (.inl ⟨rfl, id, kinds, rfl⟩))
  | _ => simp [Environment.replaceConstraintsOp, Op.update]

end Store.Op.Known

end ControlPlane
