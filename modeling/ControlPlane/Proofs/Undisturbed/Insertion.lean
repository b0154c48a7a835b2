import ControlPlane.Proofs.Undisturbed.Planning

/-!
# Inserting machines without disturbance

In a store that is in order a batch of known operations is committed if its new
documents have places of their own that are free, and the assertions of its
other operations hold.  Afterwards each new machine has the records that were
planned, and nothing else has changed that the batch does not name.
-/

namespace ControlPlane

open Json Store

variable {μ : Type} {store after : Store} {environment : Environment} {records : Records}
  {ops : List Op} {machine : Machine} {template : Template} {children : List String}

/-! ## Committing -/

theorem Store.Governed.perform_commit (h : store.Governed (some environment))
    (halive : environment.life = .alive)
    (hcommit : store.transact (Environment.checkAliveOp :: ops) = .ok after)
    (advisor : Advisor μ) (memory : μ) :
    advisor.perform (commit ops) (store, memory) = (.ok (), after, memory) := by
  have halive := (h.reads_requireAlive halive).perform_eq advisor memory
  unfold commit
  rw [Advisor.perform_bind_ok halive, Advisor.perform_bind_ok (Advisor.perform_ask _)]
  simp only [Advisor.answer, hcommit]
  rfl

/-- In a store that is in order only an assertion on what is there already can stand in the way of
known operations for machines whose places are free. -/
theorem Store.Regular.exists_transact {ids : List String}
    (h : store.Regular environment records) (halive : environment.life = .alive)
    (hknown : ∀ op ∈ ops, ∃ type, op.Known type)
    (hplaces : (Op.places ops).Subperm (ids.flatMap Machine.allPlaces)) (hnodup : ids.Nodup)
    (hfree : ∀ id ∈ ids, ∀ place ∈ Machine.allPlaces id, store.get? place.1 place.2 = none)
    (hassertions : ∀ op ∈ ops, ¬op.IsInsertion →
      op.assertion.failure? (store.get? op.collection op.id) = none) :
    ∃ after, store.transact (Environment.checkAliveOp :: ops) = .ok after := by
  have hknown' : ∀ op ∈ Environment.checkAliveOp :: ops, ∃ type, op.Known type :=
    List.forall_mem_cons.mpr ⟨⟨_, .checkAlive⟩, hknown⟩
  have hassertion : Environment.aliveAssertion.failure?
      (store.get? Layout.environments Layout.environmentKey) = none := by
    rw [h.governed.document, Option.map_some, Environment.failure?_aliveAssertion, if_pos halive]
  rcases h.formed.transact hknown' with ⟨after, hcommit, -⟩ | ⟨failure, hfailure, haborted⟩
  · exact ⟨after, hcommit⟩
  · obtain ⟨op, hop, hinsertion, hfails⟩ :=
      exists_failure_of_free hfailure haborted hassertion hplaces hnodup hfree
    exact absurd (hassertions op hop hinsertion) hfails

/-- A batch leaves alone what it does not name. -/
theorem Store.get?_eq_of_commit
    (hcommit : store.transact (Environment.checkAliveOp :: ops) = .ok after)
    (hops : ∀ op ∈ ops, op.collection ≠ Layout.environments) {collection id : String}
    (hplace : ∀ op ∈ ops, (op.collection, op.id) ≠ (collection, id)) :
    after.get? collection id = store.get? collection id := by
  by_cases henvironment : (collection, id) = (Layout.environments, Layout.environmentKey)
  · cases henvironment
    exact (transact_checkAlive hcommit hops).1
  · apply get?_eq_of_not_named (transact_eq_ok_iff.mp hcommit).2
    rw [List.forall_mem_cons]
    constructor
    · rw [← Bool.not_eq_true, Op.names_iff]
      rintro ⟨hcollection, hid⟩
      exact henvironment (Prod.ext hcollection.symm hid.symm)
    · intro op hop
      rw [← Bool.not_eq_true, Op.names_iff]
      rintro ⟨hcollection, hid⟩
      exact hplace op hop (Prod.ext hcollection hid)

/-! ## New machines -/

/-- What is inserted into a collection to which nothing else happens is found there. -/
theorem Store.get?_of_insert_mem {collection id : String} {document : Value}
    (hcommit : store.transact (Environment.checkAliveOp :: ops) = .ok after)
    (hcollection : Layout.environments ≠ collection) (honly : Op.OnlyInsert collection ops)
    (hop : Op.insert collection id document ∈ ops) : after.get? collection id = some document := by
  have honly' : Op.OnlyInsert collection (Environment.checkAliveOp :: ops) := by
    intro op hop hsame
    rcases List.mem_cons.mp hop with rfl | hop
    · exact absurd hsame hcollection
    · exact honly op hop hsame
  have hinserts := inserts_of_onlyInsert (transact_eq_ok_iff.mp hcommit).2 honly'
  have hmem : (id, document) ∈ Op.inserted collection (Environment.checkAliveOp :: ops) :=
    List.mem_filterMap.mpr ⟨_, List.mem_cons_of_mem _ hop, by simp [Op.insert]⟩
  rw [hinserts.get?_eq, Table.get?_of_mem hinserts.nodup hmem]
  rfl

/-- An instance is inserted only for a machine whose instance is known. -/
theorem Machine.isSome_instanceId_of_mem {op : Op} (h : op ∈ machine.insertOps template)
    (hcollection : op.collection = Layout.instanceData) :
    op.id = machine.id ∧ machine.instanceId.isSome = true := by
  have hother : Layout.machines ≠ Layout.instanceData ∧ Layout.constraints ≠ Layout.instanceData ∧
      Layout.statuses ≠ Layout.instanceData := by decide
  rcases List.mem_append.mp h with h | h
  · simp only [List.mem_cons, List.not_mem_nil, or_false] at h
    rcases h with rfl | rfl | rfl
    · exact absurd hcollection hother.1
    · exact absurd hcollection hother.2.1
    · exact absurd hcollection hother.2.2
  · obtain ⟨instanceId, hinstance, rfl⟩ := Option.map_eq_some_iff.mp (Option.mem_toList.mp h)
    exact ⟨rfl, Option.isSome_of_mem hinstance⟩

/-- A batch that inserts the records of a machine leaves them as they were planned. -/
theorem Store.registers_of_commit
    (hcommit : store.transact (Environment.checkAliveOp :: ops) = .ok after)
    (henvironment : ∀ op ∈ ops, op.collection ≠ Layout.environments)
    (hmem : ∀ op ∈ machine.insertOps template, op ∈ ops)
    (honly : ∀ collection ∈ Machine.ownCollections, Op.OnlyInsert collection ops)
    (hfree : ∀ place ∈ Machine.allPlaces machine.id, store.get? place.1 place.2 = none)
    (hinstance : machine.instanceId = none →
      ∀ op ∈ ops, op.collection = Layout.instanceData → op.id ≠ machine.id)
    (hcontainers : after.get? Layout.containerRefs machine.id =
      some (ContainerRef.toValue { id := machine.id, children })) :
    after.Registers machine template.constraints (template.hardware.getD {}) children := by
  have hown : Layout.environments ∉ Machine.ownCollections := by decide
  have hinserted : ∀ {collection id : String} {document : Value},
      Op.insert collection id document ∈ machine.insertOps template →
        after.get? collection id = some document := by
    intro collection id document hop
    have hcollection : collection ∈ Machine.ownCollections := (Machine.mem_insertOps hop).1
    exact get?_of_insert_mem hcommit (ne_of_mem_of_not_mem hcollection hown).symm
      (honly collection hcollection) (hmem _ hop)
  refine ⟨hinserted ?_, hinserted ?_, hinserted ?_, ?_, hcontainers⟩
  · exact List.mem_append_left _ List.mem_cons_self
  · exact List.mem_append_left _ (List.mem_cons_of_mem _ List.mem_cons_self)
  · exact List.mem_append_left _
      (List.mem_cons_of_mem _ (List.mem_cons_of_mem _ List.mem_cons_self))
  · cases hknown : machine.instanceId with
    | some instanceId =>
      apply hinserted
      apply List.mem_append_right
      rw [hknown]
      exact List.mem_singleton_self _
    | none =>
      have hnone := hfree (Layout.instanceData, machine.id)
        (List.mem_append_left _ (by simp [Machine.places]))
      rw [get?_eq_of_commit hcommit henvironment, hnone]
      · rfl
      · intro op hop hplace
        obtain ⟨hcollection, hid⟩ := Prod.mk.inj hplace
        exact hinstance hknown op hop hcollection hid

end ControlPlane
