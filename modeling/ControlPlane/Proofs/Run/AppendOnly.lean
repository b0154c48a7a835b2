import ControlPlane.Proofs.Environment.Death
import ControlPlane.Proofs.Machine.Complete
import ControlPlane.Proofs.Run.Counters
import ControlPlane.Proofs.Run.Operations
import ControlPlane.Proofs.StateServers.Growth

/-!
# Nothing is taken back

A store in the course of a run extends what it was before.  The environment
keeps its identifier, machines keep all but the report of what they support,
the records about machines stay as they were written, lists grow at their
ends, and counters go up.  This is why it is enough for a transaction to assert
that a document is there, or that a list has the length that was read.
-/

namespace ControlPlane

open Json Store

/-- A machine at a later time: all but what it is reported to support is the same, and once there
is a report there always is. -/
structure Machine.Continues (machine machine' : Machine) : Prop where
  same : machine' =
    { machine with
      supportedContainersKnown := machine'.supportedContainersKnown
      supportedContainers := machine'.supportedContainers }
  known : machine.supportedContainersKnown = true → machine'.supportedContainersKnown = true

namespace Machine

variable {machine middle machine' : Machine}

theorem continues_refl (machine : Machine) : machine.Continues machine :=
  ⟨rfl, fun hknown => hknown⟩

theorem continues_reporting (machine : Machine) (kinds : List ContainerType) :
    machine.Continues (machine.reporting kinds) :=
  ⟨rfl, fun _ => rfl⟩

theorem Continues.trans (h : machine.Continues middle) (h' : middle.Continues machine') :
    machine.Continues machine' := by
  obtain ⟨hsame, hknown⟩ := h
  obtain ⟨hsame', hknown'⟩ := h'
  refine ⟨?_, fun hreported => hknown' (hknown hreported)⟩
  rw [hsame] at hsame'
  exact hsame'

end Machine

/-- The environment that a store has. -/
def Store.environment? (store : Store) : Option Environment :=
  store.record? Environment.decode Layout.environments Layout.environmentKey

theorem Store.Governed.environment?_eq {store : Store} {environment? : Option Environment}
    (h : store.Governed environment?) : store.environment? = environment? := by
  rw [Store.environment?, record?_eq_map h.document Environment.decode_toValue]
  exact Option.map_id' ..

/-- What a store has of an earlier one. -/
structure Store.Extends (store later : Store) : Prop where
  environment : ∀ environment, store.environment? = some environment →
    ∃ environment', later.environment? = some environment' ∧
      environment'.id = environment.id ∧ environment'.uuid = environment.uuid
  machine : ∀ id document, store.get? Layout.machines id = some document →
    ∃ machine machine' : Machine, document = machine.toValue ∧
      later.get? Layout.machines id = some machine'.toValue ∧ machine.Continues machine'
  constraints : ∀ id document,
    store.get? Layout.constraints (Layout.machineKey id) = some document →
      later.get? Layout.constraints (Layout.machineKey id) = some document
  status : ∀ key document, store.get? Layout.statuses key = some document →
    later.get? Layout.statuses key = some document
  instanceData : ∀ id document, store.get? Layout.instanceData id = some document →
    later.get? Layout.instanceData id = some document
  children : ∀ id children, store.children? id = some children →
    ∃ children', later.children? id = some children' ∧ children <+: children'
  servers : ∀ servers, store.servers? = some servers →
    ∃ servers', later.servers? = some servers' ∧ servers.Precedes servers'
  counter : ∀ counter, store.count counter ≤ later.count counter

variable {store middle after : Store}

theorem Store.Extends.trans (h : store.Extends middle) (h' : middle.Extends after) :
    store.Extends after where
  environment environment henvironment := by
    obtain ⟨between, hbetween, hid, huuid⟩ := h.environment environment henvironment
    obtain ⟨environment', hlater, hid', huuid'⟩ := h'.environment between hbetween
    exact ⟨environment', hlater, hid'.trans hid, huuid'.trans huuid⟩
  machine id document hdocument := by
    obtain ⟨machine, between, hmachine, hbetween, hcontinues⟩ := h.machine id document hdocument
    obtain ⟨same, machine', hsame, hlater, hcontinues'⟩ := h'.machine id _ hbetween
    have hdecode := between.decode_toValue
    rw [hsame, same.decode_toValue] at hdecode
    obtain rfl := Except.ok.inj hdecode
    exact ⟨machine, machine', hmachine, hlater, hcontinues.trans hcontinues'⟩
  constraints id document hdocument :=
    h'.constraints id document (h.constraints id document hdocument)
  status key document hdocument := h'.status key document (h.status key document hdocument)
  instanceData id document hdocument :=
    h'.instanceData id document (h.instanceData id document hdocument)
  children id children hchildren := by
    obtain ⟨between, hbetween, hprefix⟩ := h.children id children hchildren
    obtain ⟨children', hlater, hprefix'⟩ := h'.children id between hbetween
    exact ⟨children', hlater, hprefix.trans hprefix'⟩
  servers servers hservers := by
    obtain ⟨between, hbetween, hprecedes⟩ := h.servers servers hservers
    obtain ⟨servers', hlater, hprecedes'⟩ := h'.servers between hbetween
    exact ⟨servers', hlater, hprecedes.trans hprecedes'⟩
  counter counter := Nat.le_trans (h.counter counter) (h'.counter counter)

/-! ## Changes of the records -/

namespace Records.Change

variable {limit : Nat} {records later : Records} {id : String}

theorem machine_continues (h : records.Change limit later) {machine : Machine}
    (hmachine : records.machine? id = some machine) :
    ∃ machine', later.machine? id = some machine' ∧ machine.Continues machine' := by
  cases h with
  | same => exact ⟨machine, hmachine, machine.continues_refl⟩
  | establish hnot => exact ⟨machine, hmachine, machine.continues_refl⟩
  | report reported kinds hreported =>
    change ∃ machine', (if id = reported.id then some (reported.reporting kinds)
      else records.machine? id) = some machine' ∧ _
    split
    · next hid =>
      rw [hid, hreported] at hmachine
      obtain rfl := Option.some.inj hmachine
      exact ⟨_, rfl, reported.continues_reporting kinds⟩
    · exact ⟨machine, hmachine, machine.continues_refl⟩
  | add added hadmissible =>
    exact ⟨machine, hadmissible.machine?_add_iff.mpr (.inr hmachine), machine.continues_refl⟩

/-- A list of containers goes on from what it was, for a machine that is added is new and has had
no list before. -/
theorem children_extend (h : records.Change limit later) (hforest : records.Forest)
    {children : List String} (hchildren : records.children? id = some children) :
    ∃ children', later.children? id = some children' ∧ children <+: children' := by
  cases h with
  | same => exact ⟨children, hchildren, List.prefix_refl _⟩
  | establish hnot => exact ⟨children, hchildren, List.prefix_refl _⟩
  | report reported kinds hreported => exact ⟨children, hchildren, List.prefix_refl _⟩
  | add added hadmissible =>
    have hold : id ∉ added.map (·.id) := by
      intro hmem
      have hpaired := hforest.paired id
      rw [hchildren, hadmissible.fresh id hmem] at hpaired
      cases hpaired
    refine ⟨children ++ Records.childrenAmong added id, ?_, List.prefix_append _ _⟩
    rw [children?_add_of_notMem hold, hchildren]
    rfl

end Records.Change

theorem Environment.Change.continues {environment? environment?' : Option Environment}
    (h : Environment.Change environment? environment?') {environment : Environment}
    (henvironment : environment? = some environment) :
    ∃ environment', environment?' = some environment' ∧
      environment'.id = environment.id ∧ environment'.uuid = environment.uuid := by
  cases h with
  | same environment? => exact ⟨environment, henvironment, rfl, rfl⟩
  | establish uuid => cases henvironment
  | destroy ended halive =>
    obtain rfl := Option.some.inj henvironment
    exact ⟨ended.dying, rfl, rfl, rfl⟩

/-- A document that is neither that of the environment nor its constraints, and of a kind that is
never updated, stays as it was written. -/
theorem Submission.get?_eq_some {limit : Nat} {past : History} {ops : List Op}
    (h : Submission limit past ops) (hcommit : store.transact ops = .ok after)
    (type : ResourceType) {id : String} {document : Value}
    (htype : type = .constraints ∧ id ≠ Layout.environmentKey ∨ type = .status ∨
      type = .instanceData)
    (hget : store.get? type.collection id = some document) :
    after.get? type.collection id = some document := by
  apply get?_eq_of_kept (transact_eq_ok_iff.mp hcommit).2 hget
  intro op hop hnames
  refine ⟨h.effect_ne_remove op hop, fun hupdate => ?_⟩
  obtain ⟨known, hknown⟩ := h.known op hop
  obtain ⟨hcollection, hid⟩ := Op.names_iff.mp hnames
  obtain rfl := ResourceType.collection_injective (hknown.collection_eq.symm.trans hcollection)
  subst hid
  rcases hknown.cases_of_update hupdate with rfl | ⟨rfl, hkey⟩ | ⟨rfl, -⟩ | rfl | rfl
  · simp at htype
  · simp [hkey] at htype
  · simp at htype
  · simp at htype
  · simp at htype

/-! ## In a run -/

variable {world later : World} {event : Event} {events : List Event}

theorem Step.get?_eq_some (h : Step world event later) (hreachable : Reachable world)
    (type : ResourceType) {id : String} {document : Value}
    (htype : type = .constraints ∧ id ≠ Layout.environmentKey ∨ type = .status ∨
      type = .instanceData)
    (hget : world.store.get? type.collection id = some document) :
    later.store.get? type.collection id = some document := by
  rcases h.unchanged_or_commit hreachable.conducted with
    hsame | ⟨index, thread, ops, -, -, hops, hcommit⟩
  · have hne : type.collection ≠ Layout.sequence := by
      rcases htype with ⟨rfl, -⟩ | rfl | rfl <;> decide
    exact (hsame _ hne id).trans hget
  · exact hops.get?_eq_some hcommit type htype hget

/-- A store extends itself. -/
theorem Reachable.extends_refl (h : Reachable world) : world.store.Extends world.store where
  environment environment henvironment := ⟨environment, henvironment, rfl, rfl⟩
  machine id document hdocument := by
    obtain ⟨records, hholds, -⟩ := h.holds
    rw [hholds.machine] at hdocument
    obtain ⟨machine, hmachine, rfl⟩ := Option.map_eq_some_iff.mp hdocument
    refine ⟨machine, machine, rfl, ?_, machine.continues_refl⟩
    rw [hholds.machine, hmachine]
    rfl
  constraints _ _ hdocument := hdocument
  status _ _ hdocument := hdocument
  instanceData _ _ hdocument := hdocument
  children _ children hchildren := ⟨children, hchildren, List.prefix_refl _⟩
  servers servers hservers := ⟨servers, hservers, servers.precedes_refl⟩
  counter _ := Nat.le_refl _

/-- No step takes anything back. -/
theorem Step.extends_store (h : Step world event later) (hreachable : Reachable world) :
    world.store.Extends later.store where
  environment environment henvironment := by
    obtain ⟨environment?, hgoverned⟩ := hreachable.governed
    obtain ⟨environment?', hafter, hchange⟩ := h.governed hreachable hgoverned
    rw [hgoverned.environment?_eq] at henvironment
    rw [hafter.environment?_eq]
    exact hchange.continues henvironment
  machine id document hdocument := by
    obtain ⟨records, hholds, hconsistent⟩ := hreachable.holds
    obtain ⟨records', hafter, hchange⟩ := h.change hreachable.conducted hholds hconsistent
    rw [hholds.machine] at hdocument
    obtain ⟨machine, hmachine, rfl⟩ := Option.map_eq_some_iff.mp hdocument
    obtain ⟨machine', hmachine', hcontinues⟩ := hchange.machine_continues hmachine
    refine ⟨machine, machine', rfl, ?_, hcontinues⟩
    rw [hafter.machine, hmachine']
    rfl
  constraints id document hdocument :=
    h.get?_eq_some hreachable .constraints
      (.inl ⟨rfl, Layout.machineKey_ne_environmentKey id⟩) hdocument
  status key document hdocument :=
    h.get?_eq_some hreachable .status (.inr (.inl rfl)) hdocument
  instanceData id document hdocument :=
    h.get?_eq_some hreachable .instanceData (.inr (.inr rfl)) hdocument
  children id children hchildren := by
    obtain ⟨records, hholds, hconsistent, hforest⟩ := hreachable.records_induct
      (fun _ records => records.Forest) Records.forest_empty (fun _ hforest => hforest)
      fun hconsistent hforest hchange => hchange.forest hconsistent hforest
    obtain ⟨records', hafter, hchange⟩ := h.change hreachable.conducted hholds hconsistent
    rw [hholds.children?_eq] at hchildren
    rw [hafter.children?_eq]
    exact hchange.children_extend hforest hchildren
  servers servers hservers := h.servers_precede hreachable hservers
  counter counter := by
    rcases h.count hreachable counter with ⟨index, -, hcount⟩ | ⟨-, hcount⟩
    · omega
    · omega

/-- No run takes anything back. -/
theorem Run.extends_store (hrun : Run world events later) (hreachable : Reachable world) :
    world.store.Extends later.store := by
  induction hrun with
  | nil => exact hreachable.extends_refl
  | snoc hbefore hlast ih => exact ih.trans (hlast.extends_store (hreachable.run hbefore))

/-! ## Only one environment is ever made -/

/-- The thread has made the environment: its transaction took place. -/
def Thread.HasEstablished (thread : Thread) : Prop :=
  (∃ quorum uuid constraints, thread.task = .establish quorum uuid constraints) ∧
    ∃ ops, (⟨.transact ops, .ok ()⟩ : Exchange) ∈ thread.past

theorem Thread.not_hasEstablished_start (task : Task) : ¬(Thread.start task).HasEstablished := by
  rintro ⟨-, ops, hmem⟩
  cases hmem

/-- Where a thread makes the environment, there was none, and then there is. -/
theorem World.Commits.establishes {thread : Thread} {ops : List Op}
    (h : world.Commits thread ops later) (hreachable : Reachable world)
    (htask : ∃ quorum uuid constraints, thread.task = .establish quorum uuid constraints) :
    world.store.environment? = none ∧ later.store.environment?.isSome = true := by
  obtain ⟨quorum, uuid, constraints, htask⟩ := htask
  have hsubmits := (h.submits hreachable).2
  rw [htask] at hsubmits
  cases hsubmits with
  | establish =>
    obtain ⟨environment?, hgoverned⟩ := hreachable.governed
    obtain ⟨-, -, hcommit⟩ := h.cases
    obtain ⟨rfl, hafter⟩ := hgoverned.establish hcommit
    rw [hgoverned.environment?_eq, hafter.environment?_eq]
    exact ⟨rfl, rfl⟩

/-- An environment does not go away. -/
theorem Step.isSome_environment (h : Step world event later) (hreachable : Reachable world)
    (hsome : world.store.environment?.isSome = true) :
    later.store.environment?.isSome = true := by
  obtain ⟨environment, henvironment⟩ := Option.isSome_iff_exists.mp hsome
  obtain ⟨environment', hlater, -⟩ := (h.extends_store hreachable).environment _ henvironment
  exact Option.isSome_of_eq_some hlater

/-- A thread that has made the environment had done so before, or does so in this step. -/
theorem Step.hasEstablished_cases (h : Step world event later) (hreachable : Reachable world)
    {index : Nat} {thread : Thread} (hthread : later.threads[index]? = some thread)
    (hestablished : thread.HasEstablished) :
    (∃ before, world.threads[index]? = some before ∧ before.HasEstablished) ∨
      world.store.environment? = none ∧ later.store.environment?.isSome = true ∧
        ∃ exchange, event = .exchanged index exchange := by
  rcases h.thread_cases hthread with
    hsame | ⟨-, hstart⟩ | ⟨before, exchange, hbefore, rfl, htask, hpast⟩
  · exact .inl ⟨thread, hsame, hestablished⟩
  · rw [hstart] at hestablished
    exact absurd hestablished (Thread.not_hasEstablished_start _)
  · obtain ⟨hestablish, ops, hmem⟩ := hestablished
    rw [htask] at hestablish
    rw [hpast] at hmem
    rcases List.mem_append.mp hmem with hmem | hmem
    · exact .inl ⟨before, hbefore, hestablish, ops, hmem⟩
    · obtain rfl := List.mem_singleton.mp hmem
      have hcommit : world.Commits before ops later := ⟨index, hbefore, h⟩
      obtain ⟨hnone, hsome⟩ := hcommit.establishes hreachable hestablish
      exact .inr ⟨hnone, hsome, _, rfl⟩

/-- The environment is there as soon as a thread has made it. -/
theorem Reachable.isSome_environment (h : Reachable world) :
    ∀ {index : Nat} {thread : Thread}, world.threads[index]? = some thread →
      thread.HasEstablished → world.store.environment?.isSome = true := by
  apply h.induct
  · intro index thread hthread
    cases hthread
  · intro world event later hreachable hmade hstep index thread hthread hestablished
    rcases hstep.hasEstablished_cases hreachable hthread hestablished with
      ⟨before, hbefore, hold⟩ | ⟨-, hsome, -⟩
    · exact hstep.isSome_environment hreachable (hmade hbefore hold)
    · exact hsome

/-- Only one thread makes the environment. -/
theorem Reachable.established_unique (h : Reachable world) :
    ∀ {index index' : Nat} {thread thread' : Thread}, world.threads[index]? = some thread →
      world.threads[index']? = some thread' → thread.HasEstablished → thread'.HasEstablished →
        index = index' := by
  apply h.induct
  · intro index index' thread thread' hthread
    cases hthread
  · intro world event later hreachable hunique hstep index index' thread thread' hthread hthread'
      hestablished hestablished'
    -- Where there is no environment yet, no thread has made it.
    have hnever : world.store.environment? = none → ∀ {index : Nat} {before : Thread},
        world.threads[index]? = some before → ¬before.HasEstablished := by
      intro hnone index before hbefore hold
      have hsome := hreachable.isSome_environment hbefore hold
      rw [hnone] at hsome
      cases hsome
    rcases hstep.hasEstablished_cases hreachable hthread hestablished with
      ⟨before, hbefore, hold⟩ | ⟨hnone, -, exchange, rfl⟩
    · rcases hstep.hasEstablished_cases hreachable hthread' hestablished' with
        ⟨before', hbefore', hold'⟩ | ⟨hnone, -⟩
      · exact hunique hbefore hbefore' hold hold'
      · exact absurd hold (hnever hnone hbefore)
    · rcases hstep.hasEstablished_cases hreachable hthread' hestablished' with
        ⟨before', hbefore', hold'⟩ | ⟨-, -, exchange', hevent⟩
      · exact absurd hold' (hnever hnone hbefore')
      · exact (Event.exchanged.inj hevent).1

/-- A thread that results in a controller of a new environment has made the environment. -/
theorem Reachable.hasEstablished_of_done (h : Reachable world) {quorum : QuorumConfig}
    {uuid : Uuid} {constraints : Constraints} {past : History} {controller : Controller}
    (hthread : ⟨.establish quorum uuid constraints, past, .done (.ok controller)⟩ ∈
      world.threads) :
    Thread.HasEstablished
      ⟨.establish quorum uuid constraints, past, .done (.ok controller)⟩ := by
  have hdutiful := h.dutiful _ hthread
  obtain ⟨ops, hcommitted⟩ : past.Committed := hdutiful
  have hmem : (ops, .ok ()) ∈ past.submissions := hcommitted ▸ List.mem_singleton_self _
  obtain ⟨⟨call, answer⟩, hexchange, hsubmission⟩ := List.mem_filterMap.mp hmem
  refine ⟨⟨quorum, uuid, constraints, rfl⟩, ops, ?_⟩
  cases call with
  | transact submitted =>
    obtain ⟨rfl, rfl⟩ := Prod.mk.inj (Option.some.inj hsubmission)
    exact hexchange
  | _ => cases hsubmission

/-- In the course of a run the store extends what it was, and one task at most results in a new
environment. -/
theorem nothing_is_taken_back (h : Reachable world) (hrun : Run world events later) :
    world.store.Extends later.store ∧
      ∀ {index index' : Nat} {quorum quorum' : QuorumConfig} {uuid uuid' : Uuid}
        {constraints constraints' : Constraints} {past past' : History}
        {controller controller' : Controller},
        later.threads[index]? =
          some ⟨.establish quorum uuid constraints, past, .done (.ok controller)⟩ →
        later.threads[index']? =
          some ⟨.establish quorum' uuid' constraints', past', .done (.ok controller')⟩ →
        index = index' := by
  refine ⟨hrun.extends_store h, ?_⟩
  intro index index' quorum quorum' uuid uuid' constraints constraints' past past' controller
    controller' hthread hthread'
  have hlater : Reachable later := h.run hrun
  exact hlater.established_unique hthread hthread'
    (hlater.hasEstablished_of_done (List.mem_of_getElem? hthread))
    (hlater.hasEstablished_of_done (List.mem_of_getElem? hthread'))

namespace World

/-- The settled world, after it has been reported what one of the machines supports. -/
def reported : World :=
  settled.perform none (.request usual (.setSupportedContainers "1" [.kvm]))

/-- The first thread is the one that has made the environment. -/
theorem exists_founder_reported :
    ∃ past controller, reported.threads[0]? =
      some ⟨.establish {} uuid {}, past, .done (.ok controller)⟩ := by
  have hends : ((Task.establish {} uuid {}).procedure.run.converse none (fun _ => false)
      (initial.gain usual).store []).1.endsWith Except.isOk = true := by decide +kernel
  obtain ⟨past, result, hfounded, hok⟩ := exists_thread_of_endsWith _ _ _ _ hends
  cases result with
  | error error => cases hok
  | ok controller =>
    have hraised := getElem?_carry_of_some hfounded none (fun _ => false) .raising
    have hsettled := getElem?_carry_of_some hraised none (fun _ => false)
      (.request usual (.addInside { series := "jammy", jobs := [.hostUnits] } "0" .lxc))
    exact ⟨past, controller, getElem?_carry_of_some hsettled none (fun _ => false)
      (.request usual (.setSupportedContainers "1" [.kvm]))⟩

end World

/-- The settled world has an environment and machines, and all of that is there still when it has
been reported what one of the machines supports; no other environment is made. -/
theorem nothing_is_taken_back_settled :
    ∃ later events, Reachable World.settled ∧ Run World.settled events later ∧
      World.settled.store.Extends later.store ∧
      (World.settled.store.machine? "1").any (·.supportedContainersKnown) = false ∧
      (later.store.machine? "1").any (·.supportedContainersKnown) = true ∧
      ∀ {index : Nat} {quorum : QuorumConfig} {uuid : Uuid} {constraints : Constraints}
        {past : History} {controller : Controller},
        later.threads[index]? =
          some ⟨.establish quorum uuid constraints, past, .done (.ok controller)⟩ → 0 = index := by
  obtain ⟨events, hrun⟩ : ∃ events, Run World.settled events World.reported :=
    Run.carry _ none (fun _ => false) (World.permits_settled _)
  obtain ⟨hextends, hunique⟩ := nothing_is_taken_back World.reachable_settled hrun
  obtain ⟨past, controller, hfounder⟩ := World.exists_founder_reported
  exact ⟨World.reported, events, World.reachable_settled, hrun, hextends, by decide +kernel,
    by decide +kernel, hunique hfounder⟩

end ControlPlane
