import ControlPlane.Proofs.Records.Basic
import ControlPlane.Proofs.Store.Transaction

/-!
# Stores that hold records

`Holds` relates a store to the records that its documents stand for.  Here is
what each kind of operation does to the documents, as far as the records are
concerned.
-/

namespace ControlPlane

open Json Store

/-- A store whose documents about machines are those of some records. -/
structure Store.Holds (store : Store) (records : Records) : Prop where
  environment : (store.get? Layout.environments Layout.environmentKey).isSome =
    records.established
  machine : ∀ id, store.get? Layout.machines id = (records.machine? id).map Machine.toValue
  machine_id : ∀ id machine, records.machine? id = some machine → machine.id = id
  children : ∀ id, store.get? Layout.containerRefs id =
    (records.children? id).map fun children => ContainerRef.toValue { id, children }
  servers : store.get? Layout.stateServers Layout.environmentKey =
    records.servers?.map fun servers =>
      StateServersRecord.toValue { id := Layout.environmentKey, servers }

theorem Store.holds_empty : Store.empty.Holds .empty where
  environment := rfl
  machine _ := rfl
  machine_id _ _ h := nomatch h
  children _ := rfl
  servers := rfl

variable {store after : Store} {records : Records} {ops : List Op}

namespace Store

/-- Stores with the same documents about machines hold the same records. -/
theorem Holds.congr (hholds : store.Holds records)
    (henvironment : (after.get? Layout.environments Layout.environmentKey).isSome =
      (store.get? Layout.environments Layout.environmentKey).isSome)
    (hsame : ∀ collection ∈ [Layout.machines, Layout.containerRefs, Layout.stateServers],
      ∀ id, after.get? collection id = store.get? collection id) : after.Holds records where
  environment := henvironment.trans hholds.environment
  machine id := (hsame _ (by simp) id).trans (hholds.machine id)
  machine_id := hholds.machine_id
  children id := (hsame _ (by simp) id).trans (hholds.children id)
  servers := (hsame _ (by simp) _).trans hholds.servers

/-- One machine may be put in place of another with the same id. -/
theorem Holds.replace {machine machine' : Machine} (hholds : store.Holds records)
    (hid : machine'.id = machine.id)
    (henvironment : (after.get? Layout.environments Layout.environmentKey).isSome =
      (store.get? Layout.environments Layout.environmentKey).isSome)
    (hmachine : after.get? Layout.machines machine.id = some machine'.toValue)
    (hother : ∀ id, id ≠ machine.id →
      after.get? Layout.machines id = store.get? Layout.machines id)
    (hsame : ∀ collection ∈ [Layout.containerRefs, Layout.stateServers],
      ∀ id, after.get? collection id = store.get? collection id) :
    after.Holds (records.replace machine') where
  environment := henvironment.trans hholds.environment
  machine id := by
    change _ = Option.map _ (if id = machine'.id then some machine' else _)
    by_cases heq : id = machine.id
    · rw [heq, hid, if_pos rfl]
      exact hmachine
    · rw [hid, if_neg heq, hother id heq]
      exact hholds.machine id
  machine_id id found hfound := by
    change (if id = machine'.id then some machine' else _) = some found at hfound
    by_cases heq : id = machine'.id
    · rw [if_pos heq] at hfound
      rw [heq, Option.some.inj hfound]
    · rw [if_neg heq] at hfound
      exact hholds.machine_id id found hfound
  children id := (hsame _ (by simp) id).trans (hholds.children id)
  servers := (hsame _ (by simp) _).trans hholds.servers

/-- What is checked to be alive exists, and stays as it is if nothing else names it. -/
theorem transact_checkAlive (h : store.transact (Environment.checkAliveOp :: ops) = .ok after)
    (hops : ∀ op ∈ ops, op.collection ≠ Layout.environments) :
    after.get? Layout.environments Layout.environmentKey =
        store.get? Layout.environments Layout.environmentKey ∧
      (store.get? Layout.environments Layout.environmentKey).isSome = true := by
  obtain ⟨hcheck, happly⟩ := transact_eq_ok_iff.mp h
  constructor
  · have hfold := foldlM_effects_eq_ok happly Layout.environments Layout.environmentKey
    have hfilter : ops.filter (·.names Layout.environments Layout.environmentKey) = [] := by
      apply List.filter_eq_nil_iff.mpr
      intro op hop hnames
      exact hops op hop (Op.names_iff.mp hnames).1
    rw [List.filter_cons_of_pos rfl, hfilter] at hfold
    exact (Except.ok.inj hfold).symm
  · have halive := checkFrom_eq_ok_iff.mp hcheck _ List.mem_cons_self
    cases hget : store.get? Layout.environments Layout.environmentKey with
    | some document => rfl
    | none =>
      change Assertion.failure? (store.get? Layout.environments Layout.environmentKey) _ = none
        at halive
      rw [hget] at halive
      cases halive

end Store

namespace Machine

/-- The collections that the own records of a machine are inserted into. -/
def ownCollections : List String :=
  [Layout.machines, Layout.constraints, Layout.statuses, Layout.instanceData]

theorem mem_insertOps {machine : Machine} {template : Template} {op : Op}
    (h : op ∈ machine.insertOps template) :
    op.collection ∈ ownCollections ∧ ∃ document, op.effect = .insert document := by
  unfold insertOps at h
  rcases List.mem_append.mp h with h | h
  · simp only [List.mem_cons, List.not_mem_nil, or_false] at h
    rcases h with rfl | rfl | rfl
    · exact ⟨by simp [ownCollections, Op.insert], _, rfl⟩
    · exact ⟨by simp [ownCollections, Op.insert], _, rfl⟩
    · exact ⟨by simp [ownCollections, Op.insert], _, rfl⟩
  · obtain ⟨instanceId, -, rfl⟩ := Option.map_eq_some_iff.mp (Option.mem_toList.mp h)
    exact ⟨by simp [ownCollections, Op.insert], _, rfl⟩

/-- A collection that is none of a machine's own is left alone. -/
theorem filter_names_insertOps {collection : String} (hcollection : collection ∉ ownCollections)
    (machine : Machine) (template : Template) (id : String) :
    (machine.insertOps template).filter (·.names collection id) = [] := by
  apply List.filter_eq_nil_iff.mpr
  intro op hop hnames
  exact hcollection ((Op.names_iff.mp hnames).1 ▸ (mem_insertOps hop).1)

theorem inserted_insertOps (machine : Machine) (template : Template) :
    Op.inserted Layout.machines (machine.insertOps template) =
      [(machine.id, machine.toValue)] := by
  cases hinstance : machine.instanceId with
  | none =>
    unfold insertOps
    rw [hinstance]
    rfl
  | some instanceId =>
    unfold insertOps
    rw [hinstance]
    rfl

theorem field_life {machine : Machine} {members : List (String × Value)}
    (hstored : Value.StoredIn machine.toFields members) :
    (Value.object members).field "life" = machine.life.toValue := by
  have hfield := hstored.hasField ("life", some machine.life.toValue) (by simp [toFields])
  rw [Value.field, hfield.get?_eq_some]
  rfl

/-- Only a machine that is dead does not take a report. -/
theorem failure?_reportOp {machine : Machine} {members : List (String × Value)}
    (hstored : Value.StoredIn machine.toFields members) (id : String)
    (kinds : List ContainerType) :
    (reportOp id kinds).assertion.failure? (some (.object members)) =
      if machine.life = .dead then some .conditionFailed else none := by
  have hsame : machine.life.toValue.same Life.dead.toValue = decide (machine.life = .dead) := by
    rcases machine.life with _ | _ | _ <;> decide
  change (if [Condition.notEqual "life" Life.dead.toValue].all _ then _ else _) = _
  rw [List.all_cons, List.all_nil, Bool.and_true, Condition.holds, field_life hstored, hsame]
  by_cases hdead : machine.life = .dead
  · rw [if_pos hdead, decide_eq_true hdead]
    rfl
  · rw [if_neg hdead, decide_eq_false hdead]
    rfl

theorem failure?_reportOp_of_ne {machine : Machine} (h : machine.life ≠ .dead) (id : String)
    (kinds : List ContainerType) :
    (reportOp id kinds).assertion.failure? (some machine.toValue) = none :=
  (failure?_reportOp (Value.storedIn_ofFields machine.toFields_nodup) id kinds).trans (if_neg h)

/-- What a machine reports is written into its record. -/
theorem apply_reportOp (machine : Machine) (id : String) (kinds : List ContainerType) :
    (reportOp id kinds).effect.apply (some machine.toValue) =
      .ok (some (machine.reporting kinds).toValue) := by
  let middle : Machine := { machine with supportedContainers := ContainerType.ascending kinds }
  have hfirst : Update.apply machine.toValue
      (.set "supported_containers" (.array ((ContainerType.ascending kinds).map (·.toValue)))) =
        .ok middle.toValue :=
    Update.apply_set_ofFields
      (replaces_of_nodup (machine.toFields.take 12) machine.toFields_nodup _)
  have hsecond : Update.apply middle.toValue (.set "supported_containers_known" (.boolean true)) =
      .ok (machine.reporting kinds).toValue :=
    Update.apply_set_ofFields
      (replaces_of_nodup (middle.toFields.take 11) middle.toFields_nodup _)
  change Effect.apply _ (.update _) = _
  simp only [Effect.apply, List.foldlM_cons, List.foldlM_nil, hfirst, hsecond, bind, Except.bind,
    pure, Except.pure]

end Machine

/-- A container that is not listed yet is put at the end of the list of its host. -/
theorem ContainerRef.apply_adoptOp {children : List String} {child : String}
    (hnew : child ∉ children) (parent : String) :
    (adoptOp parent child).effect.apply (some (toValue { id := parent, children })) =
      .ok (some (toValue { id := parent, children := children ++ [child] })) := by
  have hunion := union_map_string children (List.nodup_singleton child) (by simpa using hnew)
  have happly : Update.apply (toValue { id := parent, children })
      (.addToSet "children" [.string child]) =
        .ok (toValue { id := parent, children := children ++ [child] }) := by
    refine Update.apply_addToSet_ofFields (children.map .string) rfl ?_
    rw [List.map_singleton] at hunion
    rw [hunion]
    exact replaces_of_nodup [("_id", some (.string parent))]
      (toFields_nodup { id := parent, children }) _
  change Effect.apply _ (.update _) = _
  simp only [Effect.apply, List.foldlM_cons, List.foldlM_nil, happly, bind, Except.bind, pure,
    Except.pure]

end ControlPlane
