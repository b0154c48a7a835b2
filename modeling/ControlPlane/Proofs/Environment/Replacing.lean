import ControlPlane.Proofs.Run.Retrying
import ControlPlane.Proofs.Session.Admission
import ControlPlane.Proofs.Undisturbed.Insertion

/-!
# Replacing the constraints of the environment

The document of the environment's constraints is written when the environment
is made, and updated field by field when its constraints are set.  An update
names every field, so whatever the document held before, the constraints that
were set are those that are read.  No other task touches the document, so in a
sequential run the last constraints that were given count.
-/

namespace ControlPlane

open Json Store Procedure

theorem Store.Alike.constraints?_eq {store other : Store} (h : store.Alike other) :
    other.constraints? = store.constraints? := by
  have hconstraints : Layout.constraints ≠ Layout.sequence := by decide
  rw [constraints?, constraints?, record?, record?, h hconstraints]

/-! ## What a task does that is performed -/

/-- A transaction is applied to a store after some calls, which have found what the store held; and
apart from it nothing but counters is written. -/
inductive Store.Applied (store : Store) (past : History) (ops : List Op) (after : Store) :
    Prop where
  | intro {before later : Store}
      (hfound : ∀ {collection id : String} {document : Value}, collection ≠ Layout.sequence →
        (⟨.get collection id, .ok (some document)⟩ : Exchange) ∈ past →
          store.get? collection id = some document)
      (hbefore : store.Alike before) (hcommit : before.transact ops = .ok later)
      (hafter : later.Alike after)

namespace Task

variable {task : Task} {store after : Store} {result : Except Error task.Result}
  {rest : Session (Except Error task.Result)} {moments earlier later : List Moment}
  {moment : Moment} {past : History} {ops : List Op}

/-- What a task applies is what it is to submit, after what it has asked. -/
theorem submits_of_applies
    (h : task.procedure.run.Converses (earlier ++ moment :: later) rest)
    (happlies : moment.Applies ops) : task.Submits (exchanges earlier) ops := by
  have hcall := h.call_allowed task.procedure_ends
  rw [List.nil_append, happlies.1] at hcall
  exact hcall.2

theorem applied_of_applies (h : task.procedure.run.Converses (earlier ++ moment :: later) rest)
    (hconsecutive : Consecutive store (earlier ++ moment :: later) after)
    (happlies : moment.Applies ops) : store.Applied (exchanges earlier) ops after := by
  obtain ⟨hearlier, hlater⟩ := List.forall_mem_append.mp (quiet_of_applies h happlies)
  obtain ⟨before, hfirst, hrest⟩ := hconsecutive.exists_of_append
  cases hrest with
  | cons hanswers hlast =>
    exact .intro (hfirst.get?_eq_of_mem hearlier) (hfirst.alike hearlier) happlies.2
      (hlast.alike hlater)

namespace Performed

/-- A task that is performed applies the transaction that it is to submit, or writes nothing but
counters. -/
theorem alike_or_applied (h : task.Performed store result after) :
    store.Alike after ∨ ∃ past ops, task.Submits past ops ∧ store.Applied past ops after := by
  obtain ⟨moments, hconverses, hconsecutive⟩ := h
  by_cases happlies : ∃ moment ∈ moments, ∃ ops, moment.Applies ops
  · obtain ⟨moment, hmem, ops, happlies⟩ := happlies
    obtain ⟨earlier, later, rfl⟩ := List.append_of_mem hmem
    exact .inr ⟨exchanges earlier, ops, submits_of_applies hconverses happlies,
      applied_of_applies hconverses hconsecutive happlies⟩
  · left
    apply hconsecutive.alike
    intro moment hmem
    exact (applies_or_quiet hconverses hmem).resolve_left fun hops => happlies ⟨moment, hmem, hops⟩

theorem alike_of_error {error : Error} (h : task.Performed store (.error error) after) :
    store.Alike after := by
  obtain ⟨moments, hconverses, hconsecutive⟩ := h
  exact hconsecutive.alike (nothing_applied hconverses).2

/-- A task whose result means that it has committed has applied its transaction. -/
theorem exists_applied {value : task.Result} (h : task.Performed store (.ok value) after)
    (hcommits : ∀ past, task.Concluded past → past.Committed) :
    ∃ past ops, task.Submits past ops ∧ store.Applied past ops after := by
  obtain ⟨moments, hconverses, hconsecutive⟩ := h
  have hconcluded : task.Concluded ([] ++ exchanges moments) :=
    hconverses.conforms task.procedure_ends
  obtain ⟨moment, hmem, ops, happlies⟩ :=
    exists_applies hconverses (hcommits _ hconcluded)
  obtain ⟨earlier, later, rfl⟩ := List.append_of_mem hmem
  exact ⟨exchanges earlier, ops, submits_of_applies hconverses happlies,
    applied_of_applies hconverses hconsecutive happlies⟩

/-- A task that ends with a transaction has applied it, after what it had learned by then. -/
theorem applied_last {value : task.Result} {allowed : History → Call → Prop}
    {post : History → task.Result → Prop} (h : task.Performed store (.ok value) after)
    (hmeets : task.procedure.Meets allowed [] post) :
    ∃ later, post later value ∧ ∀ asked ops, later = asked ++ [⟨.transact ops, .ok ()⟩] →
      store.Applied asked ops after := by
  obtain ⟨moments, hconverses, hconsecutive⟩ := h
  refine ⟨exchanges moments, hconverses.conforms hmeets value rfl, fun asked ops hlater => ?_⟩
  obtain ⟨earlier, moment, rfl, rfl, happlies⟩ := hconverses.exists_last hlater
  exact applied_of_applies hconverses hconsecutive happlies

end Performed

end Task

/-! ## What is done to the document -/

/-- The constraints that a task gives to the environment. -/
def Task.given? : Task → Option Constraints
  | establish _ _ constraints => some constraints
  | request _ (.setEnvironmentConstraints constraints) => some constraints
  | _ => none

/-- Operations that insert the records of machines are not about the constraints of the
environment. -/
theorem Store.Op.names_environmentConstraints {ops : List Op} {ids : List String}
    (hplaces : Op.places ops ⊆ ids.flatMap Machine.allPlaces)
    (honly : ∀ op ∈ ops, op.collection = Layout.constraints → op.IsInsertion) :
    ∀ op ∈ Environment.checkAliveOp :: ops,
      op.names Layout.constraints Layout.environmentKey = false := by
  rw [List.forall_mem_cons]
  refine ⟨by decide, fun op hop => ?_⟩
  rw [← Bool.not_eq_true, Op.names_iff]
  rintro ⟨hcollection, hid⟩
  have hmem := hplaces (Op.mem_places_of_isInsertion hop (honly op hop hcollection))
  rw [hcollection, hid] at hmem
  obtain ⟨id, -, hplace⟩ := List.mem_flatMap.mp hmem
  rcases List.mem_append.mp hplace with hown | hrefs
  · exact Machine.environment_notMem_places id hown
  · have hother : Layout.constraints ≠ Layout.containerRefs := by decide
    exact hother (congrArg Prod.fst (List.mem_singleton.mp hrefs))

namespace CreationPlan

variable {plans : List CreationPlan} {template parentTemplate : Template} {kind : ContainerType}
  {parent id parentId : String}

theorem names_environmentConstraints_roots
    (hroot : ∀ plan ∈ plans, ∃ template number, plan = ofRoot template (MachineId.root number))
    (current : StateServers) :
    ∀ op ∈ Environment.checkAliveOp :: (plans.flatMap (·.ops) ++
      (StateServers.addOp? (plans.map (·.machine)) current).toList),
      op.names Layout.constraints Layout.environmentKey = false := by
  apply Op.names_environmentConstraints (places_roots_sublist hroot current).subset
  intro op hop hcollection
  rcases List.mem_append.mp hop with hop | hop
  · obtain ⟨plan, hplan, hop⟩ := List.mem_flatMap.mp hop
    obtain ⟨template, number, rfl⟩ := hroot plan hplan
    exact isInsertion_of_mem_ofRoot hop
  · have hservers := (StateServers.addOp?_eq_some (Option.mem_toList.mp hop)).1
    exact absurd (hservers.symm.trans hcollection) (by decide)

theorem names_environmentConstraints_inside :
    ∀ op ∈ Environment.checkAliveOp :: (ofInside template parent kind id).ops,
      op.names Layout.constraints Layout.environmentKey = false := by
  have hrefs : Layout.containerRefs ≠ Layout.constraints := by decide
  have hplaces : Op.places (ofInside template parent kind id).ops ⊆
      [id].flatMap Machine.allPlaces := by
    simpa using (places_ofInside_sublist template parent kind id).subset
  apply Op.names_environmentConstraints hplaces
  intro op hop hcollection
  rcases List.mem_append.mp hop with hop | hop
  · exact Machine.isInsertion_of_mem_insertOps hop
  · simp only [List.mem_cons, List.not_mem_nil, or_false] at hop
    rcases hop with rfl | rfl
    · exact absurd hcollection hrefs
    · exact absurd hcollection hrefs

theorem names_environmentConstraints_insideNew :
    ∀ op ∈ Environment.checkAliveOp ::
        (ofInsideNew template parentTemplate kind parentId id).ops,
      op.names Layout.constraints Layout.environmentKey = false :=
  Op.names_environmentConstraints
    (places_ofInsideNew_subperm template parentTemplate kind parentId id).subset
    fun _ hop _ => isInsertion_of_mem_ofInsideNew hop

end CreationPlan

/-- A task does not touch the constraints of the environment, or gives them to it. -/
theorem Task.Submits.cases_given {task : Task} {past : History} {ops : List Op}
    (h : task.Submits past ops) :
    (task.given? = none ∧
        ∀ op ∈ ops, op.names Layout.constraints Layout.environmentKey = false) ∨
      ∃ constraints, task.given? = some constraints ∧
        (ops = [Environment.checkAliveOp, Environment.replaceConstraintsOp constraints] ∨
          ∃ uuid, ops = [ (Environment.fresh uuid).insertOp,
            Environment.insertConstraintsOp constraints, StateServers.insertOp ]) := by
  have hroots : ∀ {raws : List Template} {plans : List CreationPlan},
      CreationPlan.AreRoots raws past plans →
        ∀ plan ∈ plans, ∃ template number, plan = .ofRoot template (MachineId.root number) :=
    fun hplans => CreationPlan.exists_ofRoot fun plan hplan =>
      (hplans.exists_raw plan hplan).imp fun _ hraw => hraw.2
  have hmachines : Layout.machines ≠ Layout.constraints := by decide
  cases h with
  | establish quorum uuid constraints => exact .inr ⟨constraints, rfl, .inr ⟨uuid, rfl⟩⟩
  | request h =>
    cases h with
    | setEnvironmentConstraints constraints => exact .inr ⟨constraints, rfl, .inl rfl⟩
    | destroyEnvironment =>
      refine .inl ⟨rfl, ?_⟩
      rw [List.forall_mem_singleton]
      decide
    | setSupportedContainers id kinds =>
      refine .inl ⟨rfl, ?_⟩
      simp only [List.forall_mem_cons]
      refine ⟨by decide, ?_, nofun⟩
      rw [← Bool.not_eq_true]
      exact Op.not_names_of_collection_ne hmachines _
    | ensureAvailability hread hmissing hsome hplans =>
      exact .inl ⟨rfl, CreationPlan.names_environmentConstraints_roots (hroots hplans) _⟩
    | addMachines hplans hcurrent =>
      exact .inl ⟨rfl, CreationPlan.names_environmentConstraints_roots (hroots hplans) _⟩
    | addMachine hplans hcurrent =>
      exact .inl ⟨rfl, CreationPlan.names_environmentConstraints_roots (hroots hplans) _⟩
    | addInside hplan => exact .inl ⟨rfl, CreationPlan.names_environmentConstraints_inside⟩
    | addInsideNew hplan => exact .inl ⟨rfl, CreationPlan.names_environmentConstraints_insideNew⟩

namespace Store

variable {store after : Store} {constraints : Constraints}

/-- Whatever the document held before, the constraints that replace it are read from it. -/
theorem constraints?_of_replace
    (hform : ∀ document, store.get? Layout.constraints Layout.environmentKey = some document →
      ResourceType.constraints.HasForm document)
    (hcommit : store.transact
      [Environment.checkAliveOp, Environment.replaceConstraintsOp constraints] = .ok after) :
    after.constraints? = some constraints := by
  have hfold := foldlM_effects_eq_ok (transact_eq_ok_iff.mp hcommit).2 Layout.constraints
    Layout.environmentKey
  change [Environment.replaceConstraintsOp constraints].foldlM _ _ = _ at hfold
  rw [foldlM_effects_singleton] at hfold
  obtain ⟨document, hget⟩ := Option.isSome_iff_exists.mp (isSome_of_apply_update hfold).1
  obtain ⟨previous, members, rfl, hstored⟩ := hform document hget
  obtain ⟨members', happly, hstored'⟩ :=
    Environment.apply_replaceConstraintsOp constraints hstored.ascending
  rw [hget, happly] at hfold
  exact record?_eq_some_iff.mpr ⟨_, (Except.ok.inj hfold).symm, hstored'.decode_eq⟩

theorem constraints?_of_establish {uuid : Uuid}
    (hcommit : store.transact [ (Environment.fresh uuid).insertOp,
      Environment.insertConstraintsOp constraints, StateServers.insertOp ] = .ok after) :
    after.constraints? = some constraints := by
  have hfold := foldlM_effects_eq_ok (transact_eq_ok_iff.mp hcommit).2 Layout.constraints
    Layout.environmentKey
  change [Environment.insertConstraintsOp constraints].foldlM _ _ = _ at hfold
  rw [foldlM_effects_singleton] at hfold
  exact record?_eq_some_iff.mpr
    ⟨_, (apply_insert_eq_ok hfold).2, constraints.decode_toValue⟩

/-- A transaction of a task leaves the constraints that the task gives, or those that it finds. -/
theorem Applied.constraints?_eq {task : Task} {past : History} {ops : List Op}
    (h : store.Applied past ops after) (hformed : store.Formed) (hsubmits : task.Submits past ops) :
    after.constraints? = task.given?.or store.constraints? := by
  have hconstraints : Layout.constraints ≠ Layout.sequence := by decide
  cases h with
  | intro hfound hbefore hcommit hafter =>
    rw [hafter.constraints?_eq]
    rcases hsubmits.cases_given with ⟨hnone, hnames⟩ | ⟨constraints, hsome, rfl | ⟨uuid, rfl⟩⟩
    · rw [hnone, Option.none_or, ← hbefore.constraints?_eq, constraints?, constraints?, record?,
        record?, get?_eq_of_not_named (transact_eq_ok_iff.mp hcommit).2 hnames]
    · rw [hsome]
      apply constraints?_of_replace _ hcommit
      rw [hbefore hconstraints]
      exact hformed .constraints Layout.environmentKey
    · rw [hsome]
      exact constraints?_of_establish hcommit

end Store

/-! ## In a sequential run -/

/-- The constraints that were given to the environment, if the task has its result. -/
def Performance.given? (performance : Performance) : Option Constraints :=
  if performance.result.isOk then performance.task.given? else none

/-- The constraints that were given last, or else those of before. -/
def Performance.latest (performances : List Performance) (before : Option Constraints) :
    Option Constraints :=
  (performances.filterMap Performance.given?).getLast?.or before

theorem Performance.latest_append_singleton (performances : List Performance)
    (performance : Performance) (before : Option Constraints) :
    latest (performances ++ [performance]) before =
      performance.given?.or (latest performances before) := by
  unfold latest
  rw [List.filterMap_append]
  cases hgiven : performance.given? with
  | none => simp [hgiven]
  | some constraints => simp [hgiven]

/-- After a task the environment has the constraints that the task has given to it, or else those
that it had. -/
theorem Task.Performed.constraints?_eq {task : Task} {store after : Store}
    {result : Except Error task.Result} (h : task.Performed store result after)
    (hformed : store.Formed) :
    after.constraints? = (Performance.mk task result).given?.or store.constraints? := by
  cases result with
  | error error => exact h.alike_of_error.constraints?_eq
  | ok value =>
    change _ = task.given?.or store.constraints?
    by_cases hgiven : task.given? = none
    · rcases h.alike_or_applied with halike | ⟨past, ops, hsubmits, happlied⟩
      · rw [hgiven]
        exact halike.constraints?_eq
      · exact happlied.constraints?_eq hformed hsubmits
    · have hcommits : ∀ past, task.Concluded past → past.Committed := by
        intro past hconcluded
        cases task with
        | establish quorum uuid constraints => exact hconcluded
        | request controller asked =>
          cases asked with
          | setEnvironmentConstraints constraints => exact hconcluded
          | _ => exact absurd rfl hgiven
      obtain ⟨past, ops, hsubmits, happlied⟩ := h.exists_applied hcommits
      exact happlied.constraints?_eq hformed hsubmits

/-- After a sequential run the environment has the constraints that were given to it last. -/
theorem Reachable.constraints?_eq_latest {world : World} {performances : List Performance}
    {store : Store} (h : Reachable world)
    (hundergoes : world.store.Undergoes performances store) :
    store.constraints? = Performance.latest performances world.store.constraints? := by
  induction hundergoes with
  | nil => rfl
  | snoc hbefore hlast ih =>
    obtain ⟨middle, hmiddle, rfl⟩ := h.undergoes hbefore
    rw [hlast.constraints?_eq hmiddle.formed, ih, Performance.latest_append_singleton]

/-- To set the constraints of the environment changes their document alone: not even a counter. -/
theorem Environment.get?_eq_of_setConstraints {controller : Controller}
    {constraints : Constraints} {store after : Store} {result : Except Error Unit}
    (h : (Task.request controller (.setEnvironmentConstraints constraints)).Performed store result
      after) {collection id : String}
    (hplace : (collection, id) ≠ (Layout.constraints, Layout.environmentKey)) :
    after.get? collection id = store.get? collection id := by
  obtain ⟨moments, hconverses, hconsecutive⟩ := h
  have hcalls : (setConstraints constraints).Calls fun call =>
      ∀ collection counter field, call ≠ .increment collection counter field :=
    calls_commit (fun _ _ _ _ _ => nofun) (fun _ _ _ _ => nofun) _
  apply hconsecutive.get?_eq_of_each
  intro moment hmem
  rcases Task.applies_or_quiet hconverses hmem with ⟨ops, happlies⟩ | hidle | ⟨counter, hcall, -⟩
  · obtain ⟨earlier, later, rfl⟩ := List.append_of_mem hmem
    have hsubmits := Task.submits_of_applies hconverses happlies
    have hother : Layout.constraints ≠ Layout.environments := by decide
    cases hsubmits with
    | request hsubmits =>
      cases hsubmits with
      | setEnvironmentConstraints =>
        apply get?_eq_of_commit happlies.2
        · rw [List.forall_mem_singleton]
          exact hother
        · rw [List.forall_mem_singleton]
          exact hplace.symm
  · rw [hidle]
  · obtain ⟨earlier, later, rfl⟩ := List.append_of_mem hmem
    have hallowed := hconverses.call_allowed (hcalls [])
    exact absurd hcall (hallowed _ _ _)

end ControlPlane
