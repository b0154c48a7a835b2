import ControlPlane.Proofs.Run.Endings
import ControlPlane.Proofs.Run.Records

/-!
# Counters in the course of a run

The numbers that are drawn from a counter are 0, 1, 2 and so on, in this
order, whoever draws them.  So no number is drawn twice, and an id with a
number that a thread has drawn, but not committed yet, is that of no machine.
-/

namespace ControlPlane

open Json Store

variable {world later : World} {event : Event} {events : List Event} {index : Nat}
  {store after : Store} {ops : List Op} {counter : String} {number : Nat}
  {limit : Nat} {past : History}

/-- The number that a counter gives next. -/
def Store.count (store : Store) (counter : String) : Nat :=
  match store.get? Layout.sequence counter with
  | some (.object members) => ((Table.get? "counter" members).bind (·.counter?)).getD 0
  | _ => 0

namespace Store

theorem count_congr (h : after.get? Layout.sequence counter = store.get? Layout.sequence counter) :
    after.count counter = store.count counter := by
  rw [count, count, h]

theorem Counted.count_eq (h : store.Counted after Layout.sequence counter "counter" number) :
    store.count counter = number ∧ after.count counter = number + 1 := by
  obtain ⟨members, counted, hfound, hnumber, hafter, hcounted, -⟩ := h.exists_members
  constructor
  · rcases hfound with hget | ⟨hget, rfl⟩
    · rw [count, hget]
      rcases hnumber with hfield | ⟨hfield, rfl⟩ <;> simp [hfield]
    · rcases hnumber with hfield | ⟨-, rfl⟩
      · cases hfield
      · rw [count, hget]
  · rw [count, hafter]
    simp [hcounted]

/-- Counting gives the number of the counter and moves it on by one, or changes nothing. -/
theorem count_increment {answer : Except StoreError Nat}
    (h : (answer, after) = store.increment Layout.sequence counter "counter") :
    (answer = .ok (store.count counter) ∧ after.count counter = store.count counter + 1) ∨
      (∃ failure, answer = .error failure) ∧ after = store := by
  obtain rfl : answer = _ := congrArg Prod.fst h
  obtain rfl : after = _ := congrArg Prod.snd h
  cases hanswer : (store.increment Layout.sequence counter "counter").1 with
  | ok number =>
    obtain ⟨hbefore, hnext⟩ := (counted_of_increment hanswer).count_eq
    rw [hbefore]
    exact .inl ⟨rfl, hnext⟩
  | error failure =>
    exact .inr ⟨⟨failure, rfl⟩, increment_eq_self_of_error (.inr (by decide)) hanswer⟩

end Store

/-- No transaction is about a counter. -/
theorem Submission.collection_ne_sequence (h : Submission limit past ops) :
    ∀ op ∈ ops, op.collection ≠ Layout.sequence := by
  have hown : Layout.sequence ∉ Layout.containerRefs :: Machine.ownCollections := by decide
  obtain ⟨henvironments, hconstraints, hmachines, hservers⟩ :
      Layout.environments ≠ Layout.sequence ∧ Layout.constraints ≠ Layout.sequence ∧
        Layout.machines ≠ Layout.sequence ∧ Layout.stateServers ≠ Layout.sequence := by decide
  have hplanned : ∀ {ops : List Op},
      (∀ op ∈ ops, op.collection ∈ Layout.containerRefs :: Machine.ownCollections ∨
        op.collection = Layout.stateServers) →
      ∀ op ∈ Environment.checkAliveOp :: ops, op.collection ≠ Layout.sequence := by
    intro ops hops op hop
    rcases List.mem_cons.mp hop with rfl | hop
    · exact henvironments
    · rcases hops op hop with hcollection | hcollection
      · exact ne_of_mem_of_not_mem hcollection hown
      · exact hcollection ▸ hservers
  cases h with
  | establish uuid constraints =>
    simp only [List.forall_mem_cons]
    exact ⟨henvironments, hconstraints, hservers, nofun⟩
  | destroy =>
    simp only [List.forall_mem_cons]
    exact ⟨henvironments, nofun⟩
  | setConstraints constraints =>
    simp only [List.forall_mem_cons]
    exact ⟨henvironments, hconstraints, nofun⟩
  | report id kinds =>
    simp only [List.forall_mem_cons]
    exact ⟨henvironments, hmachines, nofun⟩
  | roots plans current hplans hgrowth =>
    apply hplanned
    intro op hop
    exact (CreationPlan.mem_roots_ops (CreationPlan.exists_ofRoot hplans) hop).imp_left (·.1)
  | inside raw template parent kind number host haccepted hinstance hkind hhost hsupports hnumber =>
    apply hplanned
    intro op hop
    exact .inl (CreationPlan.mem_ofInside_ops hop).1
  | insideNew raw template rawParent parentTemplate kind parentNumber number haccepted hparent
      hinstance hparentInstance hkind hparentNumber hnumber =>
    apply hplanned
    intro op hop
    rcases (CreationPlan.mem_ofInsideNew_ops hop).1 with hcollection | hcollection
    · exact .inl (List.mem_cons_of_mem _ hcollection)
    · exact .inl (hcollection ▸ List.mem_cons_self)

/-! ## The numbers of a run -/

/-- The thread that draws a number from a counter in an event, and the number. -/
def Event.draw? (counter : String) : Event → Option (Nat × Nat)
  | exchanged index exchange => (exchange.drawn? counter).map (index, ·)
  | _ => none

/-- The draws from a counter in the course of some events. -/
def draws (events : List Event) (counter : String) : List (Nat × Nat) :=
  events.filterMap (·.draw? counter)

/-- A step draws the number that the counter gives next, or leaves the counter alone. -/
theorem Step.count (h : Step world event later) (hreachable : Reachable world) (counter : String) :
    (∃ index, event.draw? counter = some (index, world.store.count counter) ∧
        later.store.count counter = world.store.count counter + 1) ∨
      event.draw? counter = none ∧ later.store.count counter = world.store.count counter := by
  cases h with
  | attach _ => exact .inr ⟨rfl, rfl⟩
  | established _ => exact .inr ⟨rfl, rfl⟩
  | establish _ _ _ => exact .inr ⟨rfl, rfl⟩
  | request _ _ => exact .inr ⟨rfl, rfl⟩
  | @exchange index thread call next answer after hthread hrest hanswer =>
    have hmem := List.mem_of_getElem? hthread
    cases call with
    | get collection id =>
      obtain ⟨-, rfl⟩ := hanswer
      exact .inr ⟨rfl, rfl⟩
    | increment collection id field =>
      have horderly := hreachable.orderly thread hmem
      rw [Thread.Orderly, hrest] at horderly
      obtain ⟨rfl, rfl⟩ : collection = Layout.sequence ∧ field = "counter" := horderly.1
      rcases hanswer with hcount | ⟨⟨message, rfl⟩, rfl⟩
      · by_cases hid : id = counter
        · subst hid
          rcases count_increment hcount with ⟨rfl, hnext⟩ | ⟨⟨failure, rfl⟩, rfl⟩
          · refine .inl ⟨index, ?_, hnext⟩
            simp [Event.draw?, Exchange.drawn?]
          · exact .inr ⟨rfl, rfl⟩
        · right
          constructor
          · cases answer <;> simp [Event.draw?, Exchange.drawn?, hid]
          · apply count_congr
            obtain ⟨-, rfl⟩ := Prod.mk.inj hcount
            exact get?_increment_of_place_ne _ (fun hplace => hid hplace.2.symm) _
      · exact .inr ⟨rfl, rfl⟩
    | transact ops =>
      refine .inr ⟨rfl, ?_⟩
      rcases hanswer with ⟨-, hcommit⟩ | ⟨-, rfl⟩
      · have hconforms := (hreachable.conducted thread hmem).conforms
        rw [hrest] at hconforms
        have hops : Submission thread.task.limit thread.past ops := hconforms.1
        apply count_congr
        apply get?_eq_of_notMem_collections (transact_eq_ok_iff.mp hcommit).2
        intro hsequence
        obtain ⟨op, hop, hcollection⟩ := List.mem_map.mp hsequence
        exact hops.collection_ne_sequence op hop hcollection
      · rfl
    | prechecker =>
      obtain rfl : after = world.store := hanswer
      exact .inr ⟨rfl, rfl⟩
    | precheck series constraints =>
      obtain rfl : after = world.store := hanswer
      exact .inr ⟨rfl, rfl⟩

/-- The numbers that are drawn from a counter are 0, 1, 2 and so on. -/
theorem Run.draws_eq_range (hrun : Run .initial events world) (counter : String) :
    (draws events counter).map (·.2) = List.range (world.store.count counter) := by
  induction hrun with
  | nil => rfl
  | @snoc events event middle later hbefore hlast ih =>
    have hnew : draws (events ++ [event]) counter =
        draws events counter ++ [event].filterMap (·.draw? counter) := List.filterMap_append ..
    rw [hnew, List.map_append, ih]
    rcases hlast.count ⟨_, hbefore⟩ counter with ⟨index, hdraw, hcount⟩ | ⟨hdraw, hcount⟩
    · rw [hcount, List.range_succ, List.filterMap_cons_some hdraw]
      rfl
    · rw [hcount, List.filterMap_cons_none hdraw]
      exact List.append_nil _

theorem Run.draws_nodup (hrun : Run .initial events world) (counter : String) :
    ((draws events counter).map (·.2)).Nodup := by
  rw [hrun.draws_eq_range]
  exact List.nodup_range

theorem pastOf_initial (hrun : Run .initial events world) (index : Nat) :
    world.pastOf index = events.filterMap (·.exchange? index) :=
  (hrun.pastOf_eq index).trans (List.nil_append _)

/-- What a thread has drawn is drawn in the run. -/
theorem Run.mem_draws (hrun : Run .initial events world)
    (h : (world.pastOf index).Drew counter number) : (index, number) ∈ draws events counter := by
  rw [History.Drew, pastOf_initial hrun] at h
  obtain ⟨event, hevent, hexchange⟩ := List.mem_filterMap.mp h
  refine List.mem_filterMap.mpr ⟨event, hevent, ?_⟩
  cases event with
  | exchanged other exchange =>
    rw [Event.exchange?] at hexchange
    split at hexchange
    · next hother =>
      obtain rfl := Option.some.inj hexchange
      simp [Event.draw?, Exchange.drawn?, hother]
    · cases hexchange
  | _ => cases hexchange

/-- No two threads draw the same number from a counter. -/
theorem Run.drew_unique (hrun : Run .initial events world) {index' : Nat}
    (h : (world.pastOf index).Drew counter number)
    (h' : (world.pastOf index').Drew counter number) : index = index' := by
  have hnodup := hrun.draws_nodup counter
  exact congrArg Prod.fst
    (List.inj_on_of_nodup_map hnodup (hrun.mem_draws h) (hrun.mem_draws h') rfl)

/-- A counter is past all the numbers that have been drawn from it. -/
theorem Run.lt_count_of_drew (hrun : Run .initial events world)
    (h : (world.pastOf index).Drew counter number) : number < world.store.count counter := by
  have hdrawn := List.mem_map_of_mem (f := (·.2)) (hrun.mem_draws h)
  rw [hrun.draws_eq_range] at hdrawn
  exact List.mem_range.mp hdrawn

/-- What a thread draws in an event is drawn in the event. -/
theorem Event.drawn?_exchange? (event : Event) (index : Nat) (counter : String) :
    (event.exchange? index).bind (·.drawn? counter) = none ∨
      (event.exchange? index).bind (·.drawn? counter) = (event.draw? counter).map (·.2) := by
  cases event with
  | exchanged other exchange =>
    rw [exchange?, draw?]
    split
    · rw [Option.bind_some, Option.map_map]
      exact .inr (Option.map_id' ..).symm
    · exact .inl rfl
  | _ => exact .inl rfl

/-- What one thread draws from a counter is among what is drawn from it. -/
theorem drawn_sublist_draws (events : List Event) (index : Nat) (counter : String) :
    (History.drawn (events.filterMap (·.exchange? index)) counter).Sublist
      ((draws events counter).map (·.2)) := by
  rw [History.drawn, List.filterMap_filterMap, draws, List.map_filterMap]
  induction events with
  | nil => exact List.Sublist.refl _
  | cons event rest ih =>
    rw [List.filterMap_cons, List.filterMap_cons]
    rcases event.drawn?_exchange? index counter with hnone | hsame
    · rw [hnone]
      cases (event.draw? counter).map (·.2) with
      | none => exact ih
      | some number => exact ih.cons number
    · rw [hsame]
      cases (event.draw? counter).map (·.2) with
      | none => exact ih
      | some number => exact ih.cons_cons number

/-- No thread draws a number from a counter twice. -/
theorem Run.drawn_nodup (hrun : Run .initial events world) (index : Nat) (counter : String) :
    ((world.pastOf index).drawn counter).Nodup := by
  rw [pastOf_initial hrun]
  exact (hrun.draws_nodup counter).sublist (drawn_sublist_draws events index counter)

/-! ## Ids with numbers that have been drawn -/

/-- The id that has a number of a counter. -/
def MachineId.Numbered (counter : String) (number : Nat) (id : String) : Prop :=
  (counter = rootCounter ∧ id = root number) ∨
    ∃ parent kind, counter = containerCounter parent kind ∧ id = container parent kind number

/-- An id has one number of one counter. -/
theorem MachineId.Numbered.unique {counter' id : String} {number' : Nat}
    (h : Numbered counter number id) (h' : Numbered counter' number' id) :
    counter = counter' ∧ number = number' := by
  rcases h with ⟨rfl, rfl⟩ | ⟨parent, kind, rfl, rfl⟩
  · rcases h' with ⟨rfl, heq⟩ | ⟨parent', kind', rfl, heq⟩
    · exact ⟨rfl, root_inj heq⟩
    · have hparent := congrArg parent? heq
      rw [parent?_root, parent?_container] at hparent
      cases hparent
  · rcases h' with ⟨rfl, heq⟩ | ⟨parent', kind', rfl, heq⟩
    · have hparent := congrArg parent? heq
      rw [parent?_root, parent?_container] at hparent
      cases hparent
    · obtain ⟨rfl, rfl, rfl⟩ := container_inj heq
      exact ⟨rfl, rfl⟩

/-- The number of an id has been drawn. -/
def History.Reserved (past : History) (id : String) : Prop :=
  ∃ counter number, MachineId.Numbered counter number id ∧ past.Drew counter number

theorem History.Reserved.mono {later : History} {id : String} (h : past.Reserved id)
    (hextend : past <+: later) : later.Reserved id := by
  obtain ⟨counter, number, hnumbered, hdrew⟩ := h
  exact ⟨counter, number, hnumbered, hdrew.mono hextend⟩

theorem History.reserved_root (h : past.Drew MachineId.rootCounter number) :
    past.Reserved (MachineId.root number) :=
  ⟨_, number, .inl ⟨rfl, rfl⟩, h⟩

theorem History.reserved_container {parent : String} {kind : ContainerType}
    (h : past.Drew (MachineId.containerCounter parent kind) number) :
    past.Reserved (MachineId.container parent kind number) :=
  ⟨_, number, .inr ⟨parent, kind, rfl, rfl⟩, h⟩

theorem Batch.reserved {machines : List Machine} {current : StateServers}
    (hbatch : Batch machines current ops)
    (hreserved : ∀ machine ∈ machines, past.Reserved machine.id) :
    ∀ id ∈ (Op.inserted Layout.machines (Environment.checkAliveOp :: ops)).map (·.1),
      past.Reserved id := by
  have halive : Environment.checkAliveOp.collection ≠ Layout.machines := by decide
  intro id hid
  rw [Op.inserted_cons_of_ne halive, hbatch.inserted_eq, List.map_map] at hid
  obtain ⟨machine, hmachine, rfl⟩ := List.mem_map.mp hid
  exact hreserved machine hmachine

/-- Who inserts a machine has drawn its number. -/
theorem Submission.reserved (h : Submission limit past ops) :
    ∀ id ∈ (Op.inserted Layout.machines ops).map (·.1), past.Reserved id := by
  have hnone : ∀ {ops : List Op}, Op.inserted Layout.machines ops = [] →
      ∀ id ∈ (Op.inserted Layout.machines ops).map (·.1), past.Reserved id := by
    intro ops hinserted id hid
    rw [hinserted] at hid
    cases hid
  cases h with
  | establish uuid constraints => exact hnone rfl
  | destroy => exact hnone rfl
  | setConstraints constraints => exact hnone rfl
  | report id kinds => exact hnone rfl
  | roots plans current hplans hgrowth =>
    apply (CreationPlan.batch_of_roots (CreationPlan.exists_ofRoot hplans) current).reserved
    intro machine hmachine
    obtain ⟨plan, hplan, rfl⟩ := List.mem_map.mp hmachine
    obtain ⟨raw, template, number, -, hdrew, rfl⟩ := hplans plan hplan
    exact History.reserved_root hdrew
  | inside raw template parent kind number host haccepted hinstance hkind hhost hsupports hnumber =>
    have hserver := haccepted.isStateServer_eq_false (MachineId.container parent kind number)
      (some kind)
    apply (CreationPlan.batch_of_inside parent hserver).reserved
    intro machine hmachine
    rw [List.mem_singleton.mp hmachine]
    exact History.reserved_container hnumber
  | insideNew raw template rawParent parentTemplate kind parentNumber number haccepted hparent
      hinstance hparentInstance hkind hparentNumber hnumber =>
    have hparentServer := hparent.isStateServer_eq_false (MachineId.root parentNumber) none
    have hserver := haccepted.isStateServer_eq_false
      (MachineId.container (MachineId.root parentNumber) kind number) (some kind)
    apply (CreationPlan.batch_of_insideNew hparentServer hserver).reserved
    intro machine hmachine
    simp only [List.mem_cons, List.not_mem_nil, or_false] at hmachine
    rcases hmachine with rfl | rfl
    · exact History.reserved_root hparentNumber
    · exact History.reserved_container hnumber

/-- Every machine has been added by a thread that has drawn its number and has submitted a
transaction. -/
theorem Reachable.reserved (h : Reachable world) :
    ∀ id, (world.store.get? Layout.machines id).isSome = true →
      ∃ index, (world.pastOf index).Reserved id ∧ (world.pastOf index).submissions ≠ [] := by
  apply h.induct
  · intro id hid
    cases hid
  · intro world event later hreachable hworld hstep id hid
    have hextend : ∀ index, world.pastOf index <+: later.pastOf index := by
      intro index
      rw [hstep.pastOf_eq]
      exact List.prefix_append _ _
    have hkept : (world.store.get? Layout.machines id).isSome = true →
        ∃ index, (later.pastOf index).Reserved id ∧ (later.pastOf index).submissions ≠ [] := by
      intro hold
      obtain ⟨index, hreserved, hsubmitted⟩ := hworld id hold
      refine ⟨index, hreserved.mono (hextend index), ?_⟩
      intro hnone
      obtain ⟨exchanges, hlater⟩ := hextend index
      rw [← hlater, History.submissions_append] at hnone
      exact hsubmitted (List.append_eq_nil_iff.mp hnone).1
    rcases hstep.unchanged_or_commit hreachable.conducted with
      hsame | ⟨index, thread, ops, hthread, rfl, hops, hcommit⟩
    · have hcounters : Layout.machines ≠ Layout.sequence := by decide
      rw [hsame _ hcounters] at hid
      exact hkept hid
    · cases hold : world.store.get? Layout.machines id with
      | some document =>
        apply hkept
        rw [hold]
        rfl
      | none =>
        have hinserted := mem_inserted_of_created (transact_eq_ok_iff.mp hcommit).2 hold hid
        have hreserved := hops.reserved id hinserted
        rw [← World.pastOf_eq hthread] at hreserved
        refine ⟨index, hreserved.mono (hextend index), ?_⟩
        rw [hstep.pastOf_eq, Event.exchange?, if_pos rfl, Option.toList_some,
          History.submissions_append_transact]
        exact List.append_ne_nil_of_right_ne_nil _ (List.cons_ne_nil _ _)

/-- An id whose number a counter has not given yet is that of no machine. -/
theorem Reachable.get?_eq_none_of_numbered (h : Reachable world) {id : String}
    (hnumbered : MachineId.Numbered counter number id)
    (hcount : world.store.count counter ≤ number) :
    world.store.get? Layout.machines id = none := by
  by_contra hsome
  obtain ⟨other, ⟨counter', number', hnumbered', hdrew⟩, -⟩ :=
    h.reserved id (Option.isSome_iff_ne_none.mpr hsome)
  obtain ⟨rfl, rfl⟩ := hnumbered.unique hnumbered'
  obtain ⟨events, hrun⟩ := h
  exact Nat.not_lt.mpr hcount (hrun.lt_count_of_drew hdrew)

/-- An id whose number a thread has drawn is that of no machine until the thread submits its
transaction. -/
theorem Run.get?_eq_none_of_reserved (hrun : Run .initial events world) {id : String}
    (hquiet : (world.pastOf index).submissions = [])
    (hreserved : (world.pastOf index).Reserved id) :
    world.store.get? Layout.machines id = none := by
  have hreachable : Reachable world := ⟨events, hrun⟩
  by_contra hsome
  obtain ⟨other, hother, hsubmitted⟩ :=
    hreachable.reserved id (Option.isSome_iff_ne_none.mpr hsome)
  obtain ⟨counter, number, hnumbered, hdrew⟩ := hreserved
  obtain ⟨counter', number', hnumbered', hdrew'⟩ := hother
  obtain ⟨rfl, rfl⟩ := hnumbered.unique hnumbered'
  obtain rfl := hrun.drew_unique hdrew hdrew'
  exact hsubmitted hquiet

end ControlPlane
