import ControlPlane.Proofs.Machine.Complete
import ControlPlane.Proofs.Store.Aborting
import Mathlib.Data.List.Flatten

/-!
# The places of new machines

A new machine takes the places of its own records and of its list of
containers.  Machines with different ids take different places, and the places
of an id that is that of no machine are all free.
-/

namespace ControlPlane

open Json Store

variable {id : String} {place : String × String}

namespace Machine

/-- All places that a machine takes, by collection and id. -/
def allPlaces (id : String) : List (String × String) :=
  places id ++ [(Layout.containerRefs, id)]

theorem fst_mem_of_mem_allPlaces (h : place ∈ allPlaces id) :
    place.1 ∈ Layout.containerRefs :: ownCollections := by
  rcases List.mem_append.mp h with h | h
  · exact List.mem_cons_of_mem _ (fst_mem_of_mem_places h)
  · exact List.mem_singleton.mp h ▸ List.mem_cons_self

/-- The place of a record tells the id of its machine. -/
theorem eq_of_mem_allPlaces {id' : String} (h : place ∈ allPlaces id)
    (h' : place ∈ allPlaces id') : id = id' := by
  have hplace : ∀ {id}, place ∈ allPlaces id →
      place.2 = if place.1 ∈ [Layout.constraints, Layout.statuses] then Layout.machineKey id
        else id := by
    intro id hmem
    have hkeyed : Layout.machines ∉ [Layout.constraints, Layout.statuses] ∧
        Layout.instanceData ∉ [Layout.constraints, Layout.statuses] ∧
        Layout.containerRefs ∉ [Layout.constraints, Layout.statuses] := by decide
    simp only [allPlaces, places, List.cons_append, List.nil_append, List.mem_cons,
      List.not_mem_nil, or_false] at hmem
    rcases hmem with rfl | rfl | rfl | rfl | rfl
    · rw [if_neg hkeyed.1]
    · rw [if_pos List.mem_cons_self]
    · rw [if_pos (List.mem_cons_of_mem _ List.mem_cons_self)]
    · rw [if_neg hkeyed.2.1]
    · rw [if_neg hkeyed.2.2]
  have heq := (hplace h).symm.trans (hplace h')
  split at heq
  · exact Layout.machineKey_inj heq
  · exact heq

theorem nodup_allPlaces (id : String) : (allPlaces id).Nodup := by
  have hcollections : [Layout.machines, Layout.constraints, Layout.statuses, Layout.instanceData,
      Layout.containerRefs].Nodup := by decide
  exact List.Nodup.of_map Prod.fst hcollections

/-- Machines with different ids take different places. -/
theorem nodup_flatMap_allPlaces {ids : List String} (h : ids.Nodup) :
    (ids.flatMap allPlaces).Nodup := by
  refine List.nodup_flatMap.mpr ⟨fun id _ => nodup_allPlaces id, ?_⟩
  apply h.imp
  intro id id' hne place hmem hmem'
  exact hne (eq_of_mem_allPlaces hmem hmem')

theorem places_insertOps_sublist (machine : Machine) (template : Template) :
    (Op.places (machine.insertOps template)).Sublist (places machine.id) := by
  unfold insertOps
  cases machine.instanceId with
  | none => exact List.sublist_append_left [_, _, _] [_]
  | some instanceId => exact List.Sublist.refl _

theorem isInsertion_of_mem_insertOps {machine : Machine} {template : Template} {op : Op}
    (h : op ∈ machine.insertOps template) : op.IsInsertion := by
  rcases List.mem_append.mp h with h | h
  · simp only [List.mem_cons, List.not_mem_nil, or_false] at h
    rcases h with rfl | rfl | rfl
    · exact ⟨_, _, _, rfl⟩
    · exact ⟨_, _, _, rfl⟩
    · exact ⟨_, _, _, rfl⟩
  · obtain ⟨instanceId, -, rfl⟩ := Option.map_eq_some_iff.mp (Option.mem_toList.mp h)
    exact ⟨_, _, _, rfl⟩

end Machine

namespace CreationPlan

theorem isInsertion_of_mem_ofRoot {template : Template} {id : String} {op : Op}
    (h : op ∈ (ofRoot template id).ops) : op.IsInsertion := by
  rcases List.mem_append.mp h with h | h
  · exact Machine.isInsertion_of_mem_insertOps h
  · exact List.mem_singleton.mp h ▸ ⟨_, _, _, rfl⟩

theorem isInsertion_of_mem_ofInsideNew {template parentTemplate : Template}
    {kind : ContainerType} {parentId id : String} {op : Op}
    (h : op ∈ (ofInsideNew template parentTemplate kind parentId id).ops) : op.IsInsertion := by
  rcases List.mem_append.mp h with h | h
  · rcases List.mem_append.mp h with h | h
    · exact Machine.isInsertion_of_mem_insertOps h
    · exact Machine.isInsertion_of_mem_insertOps h
  · simp only [List.mem_cons, List.not_mem_nil, or_false] at h
    rcases h with rfl | rfl
    · exact ⟨_, _, _, rfl⟩
    · exact ⟨_, _, _, rfl⟩

theorem places_ofRoot_sublist (template : Template) (id : String) :
    (Op.places (ofRoot template id).ops).Sublist (Machine.allPlaces id) := by
  change (Op.places (_ ++ _)).Sublist _
  rw [Op.places_append]
  exact (Machine.places_insertOps_sublist _ _).append (List.Sublist.refl _)

theorem places_ofInside_sublist (template : Template) (parent : String) (kind : ContainerType)
    (id : String) :
    (Op.places (ofInside template parent kind id).ops).Sublist (Machine.allPlaces id) := by
  change (Op.places (_ ++ _)).Sublist _
  rw [Op.places_append]
  exact (Machine.places_insertOps_sublist _ _).append (List.Sublist.refl _)

theorem places_ofInsideNew_subperm (template parentTemplate : Template) (kind : ContainerType)
    (parentId id : String) :
    (Op.places (ofInsideNew template parentTemplate kind parentId id).ops).Subperm
      ([parentId, id].flatMap Machine.allPlaces) := by
  have hparent := Machine.places_insertOps_sublist (parentTemplate.machine parentId none)
    parentTemplate
  have hmachine := Machine.places_insertOps_sublist (template.machine id (some kind)) template
  change (Op.places ((_ ++ _) ++ _)).Subperm _
  rw [Op.places_append, Op.places_append]
  have hsublist := (hparent.append hmachine).append
    (List.Sublist.refl [(Layout.containerRefs, id), (Layout.containerRefs, parentId)])
  apply hsublist.subperm.trans
  apply List.Perm.subperm
  apply List.perm_iff_count.mpr
  intro place
  simp only [List.flatMap_cons, List.flatMap_nil, List.append_nil, Machine.allPlaces,
    List.count_append, List.count_cons, List.count_nil]
  change List.count place (Machine.places parentId) + List.count place (Machine.places id) + _ = _
  omega

/-- The places that a batch of plans of root machines takes. -/
theorem places_roots_sublist {plans : List CreationPlan}
    (hroot : ∀ plan ∈ plans, ∃ template number, plan = ofRoot template (MachineId.root number))
    (current : StateServers) :
    (Op.places (plans.flatMap (·.ops) ++
        (StateServers.addOp? (plans.map (·.machine)) current).toList)).Sublist
      ((plans.map (·.machine.id)).flatMap Machine.allPlaces) := by
  have hservers : Op.places (StateServers.addOp? (plans.map (·.machine)) current).toList = [] := by
    cases hop : StateServers.addOp? (plans.map (·.machine)) current with
    | none => rfl
    | some op =>
      obtain ⟨-, -, -, heffect⟩ := StateServers.addOp?_eq_some hop
      apply Op.places_cons_of_not_insert
      rintro ⟨document, hinsert⟩
      rw [heffect] at hinsert
      cases hinsert
  have hflatMap : Op.places (plans.flatMap (·.ops)) =
      plans.flatMap fun plan => Op.places plan.ops := by
    rw [Op.places, List.filterMap_flatMap]
    rfl
  rw [Op.places_append, hservers, List.append_nil, hflatMap, List.flatMap_map]
  apply List.Sublist.flatMap_right
  intro plan hplan
  obtain ⟨template, number, rfl⟩ := hroot plan hplan
  exact places_ofRoot_sublist template _

end CreationPlan

/-- The places of an id that is that of no machine are free. -/
theorem Reachable.get?_eq_none {world : World} (h : Reachable world)
    (hmachine : world.store.get? Layout.machines id = none)
    (hplace : place ∈ Machine.allPlaces id) : world.store.get? place.1 place.2 = none := by
  rcases List.mem_append.mp hplace with hown | hrefs
  · cases h.accounts id with
    | absent hnone => exact hnone place hown
    | present machine constraints hardware hfound _ _ _ _ _ _ =>
      rw [hmachine] at hfound
      cases hfound
  · have hsome := h.isSome_containerRefs id
    rw [hmachine] at hsome
    rw [List.mem_singleton.mp hrefs]
    exact Option.not_isSome_iff_eq_none.mp (Bool.eq_false_iff.mp hsome)

/-- A transaction for machines whose places are free is aborted over an operation that inserts
nothing, if the environment is alive. -/
theorem Store.exists_failure_of_free {store : Store} {ops : List Op} {failure : StoreError}
    {ids : List String}
    (hfailed : store.transact (Environment.checkAliveOp :: ops) = .error failure)
    (haborted : failure.isAborted = true)
    (halive : Environment.aliveAssertion.failure?
      (store.get? Layout.environments Layout.environmentKey) = none)
    (hplaces : (Op.places ops).Subperm (ids.flatMap Machine.allPlaces)) (hnodup : ids.Nodup)
    (hfree : ∀ id ∈ ids, ∀ place ∈ Machine.allPlaces id, store.get? place.1 place.2 = none) :
    ∃ op ∈ ops, ¬op.IsInsertion ∧
      op.assertion.failure? (store.get? op.collection op.id) ≠ none := by
  have hcheck : Op.places (Environment.checkAliveOp :: ops) = Op.places ops :=
    Op.places_cons_of_not_insert (by rintro ⟨document, hinsert⟩; cases hinsert) ops
  have hdifferent : (Op.places (Environment.checkAliveOp :: ops)).Nodup := by
    obtain ⟨places, hperm, hsublist⟩ := hplaces
    rw [hcheck]
    exact hperm.nodup_iff.mp ((Machine.nodup_flatMap_allPlaces hnodup).sublist hsublist)
  have hnew : ∀ place ∈ Op.places (Environment.checkAliveOp :: ops),
      store.get? place.1 place.2 = none := by
    intro place hplace
    rw [hcheck] at hplace
    obtain ⟨id, hid, hmem⟩ := List.mem_flatMap.mp (hplaces.subset hplace)
    exact hfree id hid place hmem
  obtain ⟨op, hop, hinsert, hfailure⟩ :=
    exists_failure_of_isAborted hfailed haborted hdifferent hnew
  rcases List.mem_cons.mp hop with rfl | hop
  · exact absurd halive hfailure
  · exact ⟨op, hop, hinsert, hfailure⟩

end ControlPlane
