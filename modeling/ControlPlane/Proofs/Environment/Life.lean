import ControlPlane.Proofs.Records.Views
import ControlPlane.Proofs.Run.Records

/-!
# The life of the environment

There is one environment, which comes to be alive and may be destroyed once.
Every other transaction asserts that it is alive, so none takes place when it
no longer is.
-/

namespace ControlPlane

open Json Store

namespace Environment

/-- The assertion that the environment is alive holds just where it is. -/
theorem failure?_aliveAssertion (environment : Environment) :
    aliveAssertion.failure? (some environment.toValue) =
      if environment.life = .alive then none else some .conditionFailed := by
  have hfield : environment.toValue.field "life" = environment.life.toValue :=
    Value.field_ofFields environment.toFields_nodup "life"
  have hsame : environment.life.toValue.same Life.alive.toValue =
      decide (environment.life = .alive) := by
    cases environment.life <;> decide
  simp [aliveAssertion, Assertion.failure?, Condition.holds, hfield, hsame]

theorem exists_alive_of_assertion {environment? : Option Environment}
    (h : aliveAssertion.failure? (environment?.map toValue) = none) :
    ∃ environment, environment? = some environment ∧ environment.life = .alive := by
  cases environment? with
  | none => cases h
  | some environment =>
    rw [Option.map_some, failure?_aliveAssertion] at h
    by_cases halive : environment.life = .alive
    · exact ⟨environment, rfl, halive⟩
    · rw [if_neg halive] at h
      cases h

/-- The environment as it is left by the transaction that ends it. -/
def dying (environment : Environment) : Environment :=
  { environment with life := .dying }

theorem apply_destroyOp (environment : Environment) :
    destroyOp.effect.apply (some environment.toValue) = .ok (some environment.dying.toValue) := by
  have hset : Update.apply environment.toValue (.set "life" Life.dying.toValue) =
      .ok environment.dying.toValue :=
    Update.apply_set_ofFields (replaces_of_nodup
      [("_id", some (.string environment.id)), ("uuid", some (.string environment.uuid.render))]
      environment.toFields_nodup _)
  change Effect.apply _ (.update _) = _
  simp only [Effect.apply, List.foldlM_cons, List.foldlM_nil, hset, bind, Except.bind, pure,
    Except.pure]

end Environment

/-- How the environment changes in one transaction. -/
inductive Environment.Change : Option Environment → Option Environment → Prop where
  | same (environment? : Option Environment) : Change environment? environment?
  | establish (uuid : Uuid) : Change none (some (.fresh uuid))
  | destroy (environment : Environment) (h : environment.life = .alive) :
      Change (some environment) (some environment.dying)

/-- The store has the document of an environment, or of none. -/
def Store.HasEnvironment (store : Store) (environment? : Option Environment) : Prop :=
  store.get? Layout.environments Layout.environmentKey = environment?.map Environment.toValue

/-- The store has the document of an environment with its constraints, or neither. -/
structure Store.Governed (store : Store) (environment? : Option Environment) : Prop where
  document : store.get? Layout.environments Layout.environmentKey =
    environment?.map Environment.toValue
  constraints : (store.get? Layout.constraints Layout.environmentKey).isSome =
    environment?.isSome

variable {store after : Store} {environment? : Option Environment} {ops : List Op}
  {limit : Nat} {past : History}

/-- An operation that may follow the check of the environment: it leaves the environment alone, and
removes nothing. -/
def Store.Op.Mild (op : Op) : Prop :=
  op.collection ≠ Layout.environments ∧ op.effect ≠ .remove

theorem Store.Op.mild_of_insert {op : Op} (hcollection : op.collection ≠ Layout.environments)
    (hinsert : ∃ document, op.effect = .insert document) : op.Mild := by
  obtain ⟨document, hinsert⟩ := hinsert
  exact ⟨hcollection, hinsert ▸ nofun⟩

theorem CreationPlan.mild_roots {plans : List CreationPlan} {current : StateServers}
    (hroot : ∀ plan ∈ plans, ∃ template number, plan = ofRoot template (MachineId.root number)) :
    ∀ op ∈ plans.flatMap (·.ops) ++ (StateServers.addOp? (plans.map (·.machine)) current).toList,
      op.Mild := by
  intro op hop
  have henvironment := (batch_of_roots hroot current).environment op hop
  rcases List.mem_append.mp hop with hop | hop
  · obtain ⟨plan, hplan, hop⟩ := List.mem_flatMap.mp hop
    obtain ⟨template, number, rfl⟩ := hroot plan hplan
    exact Op.mild_of_insert henvironment (mem_ofRoot_ops hop).2
  · obtain ⟨-, -, -, heffect⟩ := StateServers.addOp?_eq_some (Option.mem_toList.mp hop)
    exact ⟨henvironment, heffect ▸ nofun⟩

theorem CreationPlan.mild_ofInside (template : Template) (parent : String) (kind : ContainerType)
    (id : String) : ∀ op ∈ (ofInside template parent kind id).ops, op.Mild := by
  have hown : Layout.environments ∉ Layout.containerRefs :: Machine.ownCollections := by decide
  intro op hop
  obtain ⟨hcollection, heffect⟩ := mem_ofInside_ops hop
  exact ⟨ne_of_mem_of_not_mem hcollection hown, heffect⟩

theorem CreationPlan.mild_ofInsideNew (template parentTemplate : Template) (kind : ContainerType)
    (parentId id : String) :
    ∀ op ∈ (ofInsideNew template parentTemplate kind parentId id).ops, op.Mild := by
  have hown : Layout.environments ∉ Machine.ownCollections := by decide
  have hrefs : Layout.containerRefs ≠ Layout.environments := by decide
  intro op hop
  obtain ⟨hcollection, hinsert⟩ := mem_ofInsideNew_ops hop
  rcases hcollection with hcollection | hcollection
  · exact Op.mild_of_insert (ne_of_mem_of_not_mem hcollection hown) hinsert
  · exact Op.mild_of_insert (hcollection ▸ hrefs) hinsert

/-- A submitted transaction makes an environment, ends it, or asserts that it is alive. -/
theorem Submission.cases_environment (h : Submission limit past ops) :
    (∃ uuid constraints, ops = [(Environment.fresh uuid).insertOp,
        Environment.insertConstraintsOp constraints, StateServers.insertOp]) ∨
      ops = [Environment.destroyOp] ∨
      ∃ rest, ops = Environment.checkAliveOp :: rest ∧ ∀ op ∈ rest, op.Mild := by
  have hcollections : Layout.constraints ≠ Layout.environments ∧
      Layout.machines ≠ Layout.environments := by decide
  cases h with
  | establish uuid constraints => exact .inl ⟨uuid, constraints, rfl⟩
  | destroy => exact .inr (.inl rfl)
  | setConstraints constraints =>
    refine .inr (.inr ⟨_, rfl, fun op hop => ?_⟩)
    rw [List.mem_singleton.mp hop]
    exact ⟨hcollections.1, nofun⟩
  | report id kinds =>
    refine .inr (.inr ⟨_, rfl, fun op hop => ?_⟩)
    rw [List.mem_singleton.mp hop]
    exact ⟨hcollections.2, nofun⟩
  | roots plans current hplans hgrowth =>
    exact .inr (.inr ⟨_, rfl, CreationPlan.mild_roots (CreationPlan.exists_ofRoot hplans)⟩)
  | inside raw template parent kind number host haccepted hinstance hkind hhost hsupports hnumber =>
    exact .inr (.inr ⟨_, rfl, CreationPlan.mild_ofInside _ _ _ _⟩)
  | insideNew raw template rawParent parentTemplate kind parentNumber number haccepted hparent
      hinstance hparentInstance hkind hparentNumber hnumber =>
    exact .inr (.inr ⟨_, rfl, CreationPlan.mild_ofInsideNew _ _ _ _ _⟩)

/-- A document is not removed by operations none of which removes anything. -/
theorem Store.isSome_get?_of_mild {index : Nat} {collection id : String}
    (happly : store.applyFrom index ops = .ok after) (hmild : ∀ op ∈ ops, op.effect ≠ .remove)
    (hsome : (store.get? collection id).isSome = true) :
    (after.get? collection id).isSome = true := by
  induction ops generalizing store index with
  | nil =>
    obtain rfl : store = after := Except.ok.inj happly
    exact hsome
  | cons op rest ih =>
    rw [List.forall_mem_cons] at hmild
    obtain ⟨document, heffect, hrest⟩ := applyFrom_cons_eq_ok happly
    apply ih hrest hmild.2
    rw [get?_put]
    split
    · next hnames =>
      obtain ⟨rfl, rfl⟩ := hnames
      cases hcase : op.effect with
      | nothing =>
        rw [hcase] at heffect
        obtain rfl := Except.ok.inj heffect
        exact hsome
      | insert value =>
        rw [hcase] at heffect
        rw [(apply_insert_eq_ok heffect).2]
        rfl
      | update updates =>
        rw [hcase] at heffect
        exact (isSome_of_apply_update heffect).2
      | remove => exact absurd hcase hmild.1
    · exact hsome

/-- No transaction removes a document. -/
theorem Submission.effect_ne_remove (h : Submission limit past ops) :
    ∀ op ∈ ops, op.effect ≠ .remove := by
  rcases h.cases_environment with ⟨uuid, constraints, rfl⟩ | rfl | ⟨rest, rfl, hmild⟩
  · simp only [List.forall_mem_cons]
    exact ⟨nofun, nofun, nofun, nofun⟩
  · simp only [List.forall_mem_cons]
    exact ⟨nofun, nofun⟩
  · rw [List.forall_mem_cons]
    exact ⟨nofun, fun op hop => (hmild op hop).2⟩

namespace Store.HasEnvironment

/-- An environment is made where there is none. -/
theorem establish {uuid : Uuid} {constraints : Constraints}
    (h : store.HasEnvironment environment?)
    (hcommit : store.transact [(Environment.fresh uuid).insertOp,
      Environment.insertConstraintsOp constraints, StateServers.insertOp] = .ok after) :
    environment? = none ∧ after.HasEnvironment (some (.fresh uuid)) := by
  obtain ⟨-, happly⟩ := transact_eq_ok_iff.mp hcommit
  have henvironment := foldlM_effects_eq_ok happly Layout.environments Layout.environmentKey
  change [(Environment.fresh uuid).insertOp].foldlM _ _ = _ at henvironment
  rw [foldlM_effects_singleton, h] at henvironment
  obtain ⟨hnone, hdocument⟩ := apply_insert_eq_ok henvironment
  exact ⟨Option.map_eq_none_iff.mp hnone, hdocument⟩

/-- An environment is ended where it is alive. -/
theorem destroy (h : store.HasEnvironment environment?)
    (hcommit : store.transact [Environment.destroyOp] = .ok after) :
    ∃ environment, environment? = some environment ∧ environment.life = .alive ∧
      after.HasEnvironment (some environment.dying) := by
  obtain ⟨hcheck, happly⟩ := transact_eq_ok_iff.mp hcommit
  have hassertion := checkFrom_eq_ok_iff.mp hcheck Environment.destroyOp List.mem_cons_self
  have henvironment := foldlM_effects_eq_ok happly Layout.environments Layout.environmentKey
  change Environment.aliveAssertion.failure?
    (store.get? Layout.environments Layout.environmentKey) = none at hassertion
  change [Environment.destroyOp].foldlM _ _ = _ at henvironment
  rw [foldlM_effects_singleton, h] at henvironment
  rw [h] at hassertion
  obtain ⟨environment, rfl, halive⟩ := Environment.exists_alive_of_assertion hassertion
  rw [Option.map_some, Environment.apply_destroyOp] at henvironment
  exact ⟨environment, rfl, halive, (Except.ok.inj henvironment).symm⟩

/-- A transaction that asserts that the environment is alive leaves it as it is. -/
theorem checkAlive (h : store.HasEnvironment environment?)
    (hops : ∀ op ∈ ops, op.collection ≠ Layout.environments)
    (hcommit : store.transact (Environment.checkAliveOp :: ops) = .ok after) :
    ∃ environment, environment? = some environment ∧ environment.life = .alive ∧
      after.HasEnvironment (some environment) := by
  obtain ⟨hsame, -⟩ := transact_checkAlive hcommit hops
  obtain ⟨hcheck, -⟩ := transact_eq_ok_iff.mp hcommit
  have hassertion := checkFrom_eq_ok_iff.mp hcheck Environment.checkAliveOp List.mem_cons_self
  change Environment.aliveAssertion.failure?
    (store.get? Layout.environments Layout.environmentKey) = none at hassertion
  rw [h] at hassertion
  obtain ⟨environment, rfl, halive⟩ := Environment.exists_alive_of_assertion hassertion
  exact ⟨environment, rfl, halive, hsame.trans h⟩

/-- A submitted transaction changes the environment in one of the ways there are. -/
theorem submission (h : store.HasEnvironment environment?) (hops : Submission limit past ops)
    (hcommit : store.transact ops = .ok after) :
    ∃ environment?', after.HasEnvironment environment?' ∧
      Environment.Change environment? environment?' := by
  rcases hops.cases_environment with ⟨uuid, constraints, rfl⟩ | rfl | ⟨rest, rfl, hmild⟩
  · obtain ⟨rfl, hafter⟩ := h.establish hcommit
    exact ⟨_, hafter, .establish uuid⟩
  · obtain ⟨environment, rfl, halive, hafter⟩ := h.destroy hcommit
    exact ⟨_, hafter, .destroy environment halive⟩
  · obtain ⟨environment, rfl, -, hafter⟩ := h.checkAlive (fun op hop => (hmild op hop).1) hcommit
    exact ⟨_, hafter, .same _⟩

end Store.HasEnvironment

namespace Store.Governed

/-- An environment is made where there is none. -/
theorem establish {uuid : Uuid} {constraints : Constraints}
    (hgoverned : store.Governed environment?)
    (hcommit : store.transact [(Environment.fresh uuid).insertOp,
      Environment.insertConstraintsOp constraints, StateServers.insertOp] = .ok after) :
    environment? = none ∧ after.Governed (some (.fresh uuid)) := by
  obtain ⟨hnone, hdocument⟩ := HasEnvironment.establish hgoverned.document hcommit
  refine ⟨hnone, hdocument, ?_⟩
  obtain ⟨-, happly⟩ := transact_eq_ok_iff.mp hcommit
  have hconstraints := foldlM_effects_eq_ok happly Layout.constraints Layout.environmentKey
  change [Environment.insertConstraintsOp constraints].foldlM _ _ = _ at hconstraints
  rw [foldlM_effects_singleton] at hconstraints
  rw [(apply_insert_eq_ok hconstraints).2]
  rfl

/-- An environment is ended where it is alive. -/
theorem destroy (hgoverned : store.Governed environment?)
    (hcommit : store.transact [Environment.destroyOp] = .ok after) :
    ∃ environment, environment? = some environment ∧ environment.life = .alive ∧
      after.Governed (some environment.dying) := by
  obtain ⟨environment, rfl, halive, hdocument⟩ :=
    HasEnvironment.destroy hgoverned.document hcommit
  obtain ⟨-, happly⟩ := transact_eq_ok_iff.mp hcommit
  have hother : Layout.constraints ∉ [Layout.environments] := by decide
  have hconstraints := get?_eq_of_notMem_collections happly hother Layout.environmentKey
  refine ⟨environment, rfl, halive, hdocument, ?_⟩
  rw [hconstraints, hgoverned.constraints]
  rfl

/-- A transaction that asserts that the environment is alive leaves it as it is. -/
theorem checkAlive (hgoverned : store.Governed environment?) (hmild : ∀ op ∈ ops, op.Mild)
    (hcommit : store.transact (Environment.checkAliveOp :: ops) = .ok after) :
    ∃ environment, environment? = some environment ∧ environment.life = .alive ∧
      after.Governed (some environment) := by
  obtain ⟨environment, rfl, halive, hdocument⟩ :=
    HasEnvironment.checkAlive hgoverned.document (fun op hop => (hmild op hop).1) hcommit
  refine ⟨environment, rfl, halive, hdocument, ?_⟩
  apply isSome_get?_of_mild (transact_eq_ok_iff.mp hcommit).2
  · rw [List.forall_mem_cons]
    exact ⟨nofun, fun op hop => (hmild op hop).2⟩
  · exact hgoverned.constraints

end Store.Governed

/-- A transaction takes place only where there is no environment or it is alive, and changes the
environment in one of the ways there are. -/
theorem Submission.environment_change (h : Submission limit past ops)
    (hgoverned : store.Governed environment?) (hcommit : store.transact ops = .ok after) :
    (∀ environment, environment? = some environment → environment.life = .alive) ∧
      ∃ environment?', after.Governed environment?' ∧
        Environment.Change environment? environment?' := by
  rcases h.cases_environment with ⟨uuid, constraints, rfl⟩ | rfl | ⟨rest, rfl, hmild⟩
  · obtain ⟨rfl, hafter⟩ := hgoverned.establish hcommit
    exact ⟨nofun, _, hafter, .establish uuid⟩
  · obtain ⟨environment, rfl, halive, hafter⟩ := hgoverned.destroy hcommit
    refine ⟨?_, _, hafter, .destroy environment halive⟩
    rintro _ ⟨⟩
    exact halive
  · obtain ⟨environment, rfl, halive, hafter⟩ := hgoverned.checkAlive hmild hcommit
    refine ⟨?_, _, hafter, .same _⟩
    rintro _ ⟨⟩
    exact halive

/-! ## In a run -/

variable {world later : World} {event : Event} {events : List Event} {collection id : String}

theorem Step.isSome_get? (h : Step world event later) (hreachable : Reachable world)
    (hcollection : collection ≠ Layout.sequence)
    (hsome : (world.store.get? collection id).isSome = true) :
    (later.store.get? collection id).isSome = true := by
  rcases h.unchanged_or_commit hreachable.conducted with
    hsame | ⟨index, thread, ops, -, -, hops, hcommit⟩
  · rw [hsame collection hcollection]
    exact hsome
  · exact isSome_get?_of_mild (transact_eq_ok_iff.mp hcommit).2 hops.effect_ne_remove hsome

/-- What has been created goes on existing. -/
theorem Run.isSome_get? (hrun : Run world events later) (hreachable : Reachable world)
    (hcollection : collection ≠ Layout.sequence)
    (hsome : (world.store.get? collection id).isSome = true) :
    (later.store.get? collection id).isSome = true := by
  induction hrun with
  | nil => exact hsome
  | snoc hbefore hlast ih => exact hlast.isSome_get? (hreachable.run hbefore) hcollection ih

theorem Store.governed_empty : Store.empty.Governed none where
  document := rfl
  constraints := rfl

theorem Store.Governed.congr (hgoverned : store.Governed environment?)
    (hsame : ∀ collection ∈ [Layout.environments, Layout.constraints],
      ∀ id, after.get? collection id = store.get? collection id) :
    after.Governed environment? where
  document := (hsame _ (by simp) _).trans hgoverned.document
  constraints := by
    rw [hsame _ (by simp)]
    exact hgoverned.constraints

end ControlPlane
