import ControlPlane.Proofs.Environment.Life
import ControlPlane.Proofs.Run.Alone
import ControlPlane.Proofs.Run.Endings
import ControlPlane.Proofs.Store.Aborting

/-!
# The end of the environment

An environment that is no longer alive never comes to life again, and from
then on no transaction takes place: all records but the counters are frozen.
Who adds machines asks first whether the environment is alive, and having been
told that it is not asks nothing else.
-/

namespace ControlPlane

open Json Store

variable {world later : World} {event : Event} {events : List Event} {index : Nat}
  {thread : Thread} {store after : Store} {environment? : Option Environment}

/-- The life of the environment, if there is one. -/
def Store.life? (store : Store) : Option Life :=
  (store.record? Environment.decode Layout.environments Layout.environmentKey).map (·.life)

/-- The environment is no longer alive. -/
def Store.IsDead (store : Store) : Prop :=
  ∃ life, store.life? = some life ∧ life ≠ .alive

theorem Store.exists_of_life? {life : Life} (h : store.life? = some life) :
    ∃ document environment,
      store.get? Layout.environments Layout.environmentKey = some document ∧
        Environment.decode document = .ok environment ∧ environment.life = life := by
  obtain ⟨environment, hrecord, rfl⟩ := Option.map_eq_some_iff.mp h
  obtain ⟨document, hget, hdecode⟩ := record?_eq_some_iff.mp hrecord
  exact ⟨document, environment, hget, hdecode, rfl⟩

theorem Store.HasEnvironment.life?_eq (h : store.HasEnvironment environment?) :
    store.life? = environment?.map (·.life) := by
  rw [life?, record?_eq_map h Environment.decode_toValue, Option.map_map]
  rfl

theorem Store.Governed.life?_eq (h : store.Governed environment?) :
    store.life? = environment?.map (·.life) :=
  HasEnvironment.life?_eq h.document

theorem Step.governed (h : Step world event later) (hreachable : Reachable world)
    (hgoverned : world.store.Governed environment?) :
    ∃ environment?', later.store.Governed environment?' ∧
      Environment.Change environment? environment?' := by
  rcases h.unchanged_or_commit hreachable.conducted with
    hsame | ⟨index, thread, ops, -, -, hops, hcommit⟩
  · have hcollections : ∀ collection ∈ [Layout.environments, Layout.constraints],
        collection ≠ Layout.sequence := by decide
    exact ⟨environment?, hgoverned.congr fun collection hmem =>
      hsame collection (hcollections collection hmem), .same _⟩
  · exact (hops.environment_change hgoverned hcommit).2

theorem Reachable.governed (h : Reachable world) :
    ∃ environment?, world.store.Governed environment? := by
  apply h.induct
  · exact ⟨none, governed_empty⟩
  · intro world event later hreachable hworld hstep
    obtain ⟨environment?, hgoverned⟩ := hworld
    obtain ⟨environment?', hafter, -⟩ := hstep.governed hreachable hgoverned
    exact ⟨environment?', hafter⟩

/-- No transaction takes place in an environment that is no longer alive. -/
theorem Step.frozen (h : Step world event later) (hreachable : Reachable world)
    (hdead : world.store.IsDead) :
    ∀ collection ≠ Layout.sequence, ∀ id,
      later.store.get? collection id = world.store.get? collection id := by
  rcases h.unchanged_or_commit hreachable.conducted with
    hsame | ⟨index, thread, ops, -, -, hops, hcommit⟩
  · exact hsame
  · obtain ⟨environment?, hgoverned⟩ := hreachable.governed
    obtain ⟨life, hlife, hnot⟩ := hdead
    rw [hgoverned.life?_eq] at hlife
    obtain ⟨environment, rfl, rfl⟩ := Option.map_eq_some_iff.mp hlife
    exact absurd ((hops.environment_change hgoverned hcommit).1 environment rfl) hnot

theorem Store.IsDead.congr (h : store.IsDead)
    (hsame : after.get? Layout.environments Layout.environmentKey =
      store.get? Layout.environments Layout.environmentKey) : after.IsDead := by
  obtain ⟨life, hlife, hnot⟩ := h
  refine ⟨life, ?_, hnot⟩
  rw [life?, record?, hsame]
  exact hlife

/-- Death is final, and all records but the counters stay as they were. -/
theorem Run.frozen (hrun : Run world events later) (hreachable : Reachable world)
    (hdead : world.store.IsDead) :
    later.store.IsDead ∧ ∀ collection ≠ Layout.sequence, ∀ id,
      later.store.get? collection id = world.store.get? collection id := by
  have hcounters : Layout.environments ≠ Layout.sequence := by decide
  induction hrun with
  | nil => exact ⟨hdead, fun _ _ _ => rfl⟩
  | snoc hbefore hlast ih =>
    obtain ⟨hmiddle, hsame⟩ := ih
    have hstep := hlast.frozen (hreachable.run hbefore) hmiddle
    refine ⟨hmiddle.congr (hstep _ hcounters _), ?_⟩
    intro collection hcollection id
    exact (hstep collection hcollection id).trans (hsame collection hcollection id)

/-- An environment that exists goes on existing. -/
theorem Run.environment_precedes (hrun : Run world events later) (hreachable : Reachable world)
    (hsome : world.store.life?.isSome = true) : later.store.life?.isSome = true := by
  have hcounters : Layout.environments ≠ Layout.sequence := by decide
  obtain ⟨environment?, hgoverned⟩ := hreachable.governed
  obtain ⟨environment?', hafter⟩ := (hreachable.run hrun).governed
  have hbefore : (world.store.get? Layout.environments Layout.environmentKey).isSome = true := by
    rw [hgoverned.document, Option.isSome_map]
    rwa [hgoverned.life?_eq, Option.isSome_map] at hsome
  have hdocument := hrun.isSome_get? hreachable hcounters hbefore
  rw [hafter.document, Option.isSome_map] at hdocument
  rw [hafter.life?_eq, Option.isSome_map]
  exact hdocument

/-! ## Who ends the environment -/

/-- What is found in the environment's place is what the store has there. -/
theorem Answers.life?_of_found {answer : Except StoreError (Option Value)} {document : Value}
    {environment : Environment}
    (h : Answers store (.get Layout.environments Layout.environmentKey) answer after)
    (hanswer : answer = .ok (some document))
    (hdecode : Environment.decode document = .ok environment) :
    store.life? = some environment.life := by
  subst hanswer
  obtain ⟨hdocument, -⟩ := h.get?_eq
  rw [life?, record?, hdocument]
  change Option.map _ (Environment.decode document).toOption = _
  rw [hdecode]
  rfl

/-- Where an environment has been found there is one. -/
theorem Reachable.isSome_life?_of_found (h : Reachable world) (hthread : thread ∈ world.threads)
    {environment : Environment}
    (hfound : thread.past.Found Environment.decode Layout.environments Layout.environmentKey
      environment) : world.store.life?.isSome = true := by
  obtain ⟨events, hrun⟩ := h
  obtain ⟨document, hmem, hdecode⟩ := hfound
  obtain ⟨index, hindex⟩ := List.getElem?_of_mem hthread
  obtain ⟨past, before, after, found, left, hoccurs, -⟩ := hrun.exists_exchange_of_mem hindex hmem
  have hlife := hoccurs.step.answers.life?_of_found rfl hdecode
  have hreachable : Reachable found := ⟨before, hoccurs.earlier⟩
  apply (Run.cons hoccurs.step hoccurs.later).environment_precedes hreachable
  rw [hlife]
  rfl

/-- A living environment can be ended. -/
theorem Store.Governed.not_aborted {environment : Environment}
    (hgoverned : store.Governed (some environment)) (halive : environment.life = .alive)
    {failure : StoreError} (h : store.transact [Environment.destroyOp] = .error failure) :
    failure.isAborted = false := by
  apply isAborted_of_transact h
  · intro op hop
    rw [List.mem_singleton.mp hop]
    change Environment.aliveAssertion.failure?
      (store.get? Layout.environments Layout.environmentKey) = none
    rw [hgoverned.document, Option.map_some, Environment.failure?_aliveAssertion, if_pos halive]
  · exact List.nodup_nil
  · exact nofun

/-- The transaction that ends the environment leaves it dead, whether it takes place or is
aborted. -/
theorem Answers.isDead_of_destroy {answer : Except StoreError Unit}
    (h : Answers store (.transact [Environment.destroyOp]) answer after)
    (hgoverned : store.Governed environment?) (hsome : store.life?.isSome = true)
    (hanswer : ∀ failure, answer = .error failure → failure.isAborted = true) :
    after.IsDead := by
  rcases h with ⟨-, hcommit⟩ | ⟨⟨failure, rfl, hcases⟩, rfl⟩
  · obtain ⟨environment, -, -, hafter⟩ := hgoverned.destroy hcommit
    exact ⟨.dying, hafter.life?_eq, nofun⟩
  · have haborted := hanswer failure rfl
    obtain ⟨life, hlife⟩ := Option.isSome_iff_exists.mp hsome
    refine ⟨life, hlife, ?_⟩
    rintro rfl
    rw [hgoverned.life?_eq] at hlife
    obtain ⟨environment, rfl, halive⟩ := Option.map_eq_some_iff.mp hlife
    rcases hcases with hfailed | ⟨message, hmessage⟩
    · rw [hgoverned.not_aborted halive hfailed] at haborted
      cases haborted
    · cases hmessage
      cases haborted

/-- Who has ended the environment leaves it dead. -/
theorem Reachable.isDead_of_destroyed (h : Reachable world) {controller : Controller}
    {past : History}
    (hthread : ⟨.request controller .destroyEnvironment, past, .done (.ok ())⟩ ∈ world.threads) :
    world.store.IsDead := by
  have horderly := h.orderly _ hthread
  have hended : Environment.Ended past := horderly
  obtain ⟨events, hrun⟩ := h
  obtain ⟨index, hindex⟩ := List.getElem?_of_mem hthread
  obtain ⟨found, document, environment, hfound, hdecode, hcases⟩ := hended
  rcases hcases with ⟨hlife, rfl⟩ | ⟨answer, rfl, hanswer⟩
  · obtain ⟨before, after, asked, left, hoccurs, -⟩ := hrun.exists_exchange_of_initial hindex hfound
    have hdead : asked.store.IsDead :=
      ⟨_, hoccurs.step.answers.life?_of_found rfl hdecode, hlife⟩
    have hlater := Run.cons hoccurs.step hoccurs.later
    exact (hlater.frozen ⟨before, hoccurs.earlier⟩ hdead).1
  · obtain ⟨before, after, asked, left, hoccurs, -⟩ := hrun.exists_exchange_of_initial hindex rfl
    have hreachable : Reachable asked := ⟨before, hoccurs.earlier⟩
    obtain ⟨environment?, hgoverned⟩ := hreachable.governed
    obtain ⟨thread, hasking, -, hpast⟩ := hoccurs.thread
    have hsome : asked.store.life?.isSome = true := by
      apply hreachable.isSome_life?_of_found (List.mem_of_getElem? hasking)
      rw [hpast]
      exact hfound.found hdecode
    have hdead := hoccurs.step.answers.isDead_of_destroy hgoverned hsome hanswer
    exact (hoccurs.later.frozen (hreachable.step hoccurs.step) hdead).1

/-! ## Who asks first -/

/-- A session that asks first whether the environment is alive, and that asks nothing else if it is
told that it is not, or is told nothing. -/
def Session.AsksFirst {α : Type} (session : Session (Except Error α)) : Prop :=
  ∃ next, session = .ask (.get Layout.environments Layout.environmentKey) next ∧
    (∀ document environment, Environment.decode document = .ok environment →
      environment.life ≠ .alive →
        next (.ok (some document)) = .done (.error .environmentNotAlive)) ∧
    ∀ failure, ∃ error, next (.error failure) = .done (.error error)

section AsksFirst

variable {α β : Type} {procedure : Procedure α}

theorem Environment.asksFirst_requireAlive : requireAlive.run.AsksFirst := by
  refine ⟨_, rfl, ?_, ?_⟩
  · intro document environment hdecode hlife
    -- What is left after the answer goes on with the document taken apart.
    change (Session.bind (Session.bind (Session.bind
      (Procedure.decoded decode document).run _) _) _) = _
    rw [Procedure.decoded, hdecode]
    change (if environment.life ≠ .alive then throw Error.environmentNotAlive else pure () :
      Procedure Unit).run = _
    rw [if_pos hlife]
    rfl
  · intro failure
    exact ⟨_, rfl⟩

theorem Procedure.asksFirst_bind (h : procedure.run.AsksFirst) (rest : α → Procedure β) :
    (procedure >>= rest).run.AsksFirst := by
  obtain ⟨next, hask, hdead, hfailure⟩ := h
  change (Session.bind procedure.run _).AsksFirst
  rw [hask]
  refine ⟨_, rfl, ?_, ?_⟩
  · intro document environment hdecode hlife
    rw [hdead document environment hdecode hlife]
    rfl
  · intro failure
    obtain ⟨error, herror⟩ := hfailure failure
    rw [herror]
    exact ⟨error, rfl⟩

theorem Procedure.asksFirst_inContext (h : procedure.run.AsksFirst) (context : String) :
    (inContext context procedure).run.AsksFirst := by
  obtain ⟨next, hask, hdead, hfailure⟩ := h
  change (Session.bind procedure.run _).AsksFirst
  rw [hask]
  refine ⟨_, rfl, ?_, ?_⟩
  · intro document environment hdecode hlife
    rw [hdead document environment hdecode hlife]
    rfl
  · intro failure
    obtain ⟨error, herror⟩ := hfailure failure
    rw [herror]
    exact ⟨error.inContext context, rfl⟩

end AsksFirst

/-- The request adds machines.  State servers are added only to reach a target that is odd and
within the limit of the controller. -/
def Request.Adds (controller : Controller) : Request → Prop
  | ensureAvailability target _ _ => target % 2 = 1 ∧ target ≤ controller.maxPeers
  | addMachines _ => True
  | addMachine _ => True
  | addInside _ _ _ => True
  | addInsideNew _ _ _ => True
  | _ => False

/-- The task adds machines. -/
def Task.Adds : Task → Prop
  | establish _ _ _ => False
  | request controller asked => asked.Adds controller

/-- Who adds machines asks first whether the environment is alive. -/
theorem Task.asksFirst {task : Task} (h : task.Adds) : task.procedure.run.AsksFirst := by
  have halive := Environment.asksFirst_requireAlive
  have hadd : ∀ raws, (Machine.addAll raws).run.AsksFirst := fun raws =>
    Procedure.asksFirst_inContext (Procedure.asksFirst_bind halive _) _
  cases task with
  | establish quorum uuid constraints => exact h.elim
  | request controller asked =>
    cases asked with
    | ensureAvailability target constraints series =>
      obtain ⟨hodd, hle⟩ : target % 2 = 1 ∧ target ≤ controller.maxPeers := h
      have htarget : Controller.missingVoters controller.maxPeers target 0 = .ok (target - 0) := by
        rw [Controller.missingVoters, if_neg (by omega), if_neg (by omega), if_neg (by omega)]
      change (controller.ensureAvailability target constraints series).run.AsksFirst
      unfold Controller.ensureAvailability
      rw [htarget]
      exact Procedure.asksFirst_bind halive _
    | addMachines raws => exact hadd raws
    | addMachine raw => exact Procedure.asksFirst_bind (hadd [raw]) _
    | addInside raw parent kind => exact Procedure.asksFirst_bind halive _
    | addInsideNew raw rawParent kind => exact Procedure.asksFirst_bind halive _
    | _ => exact h.elim

/-! ## What happens after the end -/

/-- A thread that adds machines, as far as it depends on its first answer. -/
structure Thread.Heeds (thread : Thread) : Prop where
  unasked : thread.past = [] → thread.rest = thread.task.procedure.run
  asked : ∀ exchange rest, thread.past = exchange :: rest →
    ∃ answer, exchange = ⟨.get Layout.environments Layout.environmentKey, answer⟩ ∧
      (∀ document environment, answer = .ok (some document) →
        Environment.decode document = .ok environment → environment.life ≠ .alive →
          rest = [] ∧ thread.rest = .done (.error .environmentNotAlive)) ∧
      ∀ failure, answer = .error failure → rest = [] ∧ ∃ error, thread.rest = .done (.error error)

theorem Reachable.heeds (h : Reachable world) :
    ∀ thread ∈ world.threads, thread.task.Adds → thread.Heeds := by
  apply h.threads_induct fun thread => thread.task.Adds → thread.Heeds
  · intro task _
    exact ⟨fun _ => rfl, fun _ _ hpast => absurd hpast (List.cons_ne_nil _ _).symm⟩
  · intro thread call next answer hheeds hrest hadds
    obtain ⟨hunasked, hasked⟩ := hheeds hadds
    refine ⟨fun hpast => absurd hpast (by simp [Thread.advance]), ?_⟩
    intro exchange rest hpast
    change thread.past ++ [⟨call, answer⟩] = exchange :: rest at hpast
    cases hthread : thread.past with
    | nil =>
      rw [hthread] at hpast
      obtain ⟨rfl, rfl⟩ := List.cons.inj hpast
      have hadds : thread.task.Adds := hadds
      obtain ⟨first, hask, hdead, hfailure⟩ := Task.asksFirst hadds
      rw [hunasked hthread, hask] at hrest
      cases hrest
      refine ⟨answer, rfl, ?_, ?_⟩
      · rintro document environment rfl hdecode hlife
        exact ⟨rfl, hdead document environment hdecode hlife⟩
      · rintro failure rfl
        exact ⟨rfl, hfailure failure⟩
    | cons first others =>
      rw [hthread] at hpast
      obtain ⟨rfl, rfl⟩ := List.cons.inj hpast
      obtain ⟨given, hgiven, hdead, hfailure⟩ := hasked first others hthread
      -- A thread that still has something to ask was told that the environment is alive.
      refine ⟨given, hgiven, ?_, ?_⟩
      · intro document environment hanswer hdecode hlife
        have hdone := (hdead document environment hanswer hdecode hlife).2
        rw [hrest] at hdone
        cases hdone
      · intro failure hanswer
        obtain ⟨error, hdone⟩ := (hfailure failure hanswer).2
        rw [hrest] at hdone
        cases hdone

/-- The task is about to ask the store whether the environment is alive, and will be told that it
is not; or it has been told, and has asked nothing else; or the store was unavailable to it. -/
inductive Thread.TurnedAway (store : Store) (thread : Thread) : Prop where
  | unasked (next : Except StoreError (Option Value) → Session (Except Error thread.task.Result))
      (hpast : thread.past = [])
      (hrest : thread.rest = .ask (.get Layout.environments Layout.environmentKey) next)
      (hnext : next (.ok (store.get? Layout.environments Layout.environmentKey)) =
        .done (.error .environmentNotAlive))
  | refused
      (hpast : thread.past = [⟨.get Layout.environments Layout.environmentKey,
        .ok (store.get? Layout.environments Layout.environmentKey)⟩])
      (hrest : thread.rest = .done (.error .environmentNotAlive))
  | unavailable (message : String) (error : Error)
      (hpast : thread.past = [⟨.get Layout.environments Layout.environmentKey,
        .error (.unavailable message)⟩])
      (hrest : thread.rest = .done (.error error))

/-- Who is begun after the end of the environment and adds machines is turned away. -/
theorem Run.turnedAway (hrun : Run world events later) (hreachable : Reachable world)
    (hdead : world.store.IsDead) (hthread : later.threads[index]? = some thread)
    (hindex : world.threads.length ≤ index) (hadds : thread.task.Adds) :
    thread.TurnedAway later.store := by
  have hlater := hreachable.run hrun
  have hcounters : Layout.environments ≠ Layout.sequence := by decide
  obtain ⟨⟨life, hlife, hnot⟩, hsame⟩ := hrun.frozen hreachable hdead
  obtain ⟨document, environment, hget, hdecode, rfl⟩ := Store.exists_of_life? hlife
  have hplace : world.store.get? Layout.environments Layout.environmentKey = some document :=
    (hsame _ hcounters _).symm.trans hget
  obtain ⟨hunasked, hasked⟩ := hlater.heeds thread (List.mem_of_getElem? hthread) hadds
  cases hpast : thread.past with
  | nil =>
    obtain ⟨next, hask, hrefused, -⟩ := Task.asksFirst hadds
    refine .unasked next hpast ((hunasked hpast).trans hask) ?_
    rw [hget]
    exact hrefused document environment hdecode hnot
  | cons exchange rest =>
    obtain ⟨answer, rfl, hrefused, hfailure⟩ := hasked exchange rest hpast
    have hfirst : thread.past = [] ++
        ⟨.get Layout.environments Layout.environmentKey, answer⟩ :: rest := hpast
    obtain ⟨before, after, found, left, hoccurs, -⟩ :=
      hrun.exists_exchange hthread hfirst fun before hbefore =>
        absurd (List.getElem?_eq_some_iff.mp hbefore).1 (Nat.not_lt.mpr hindex)
    have hfound := (hoccurs.earlier.frozen hreachable hdead).2 _ hcounters Layout.environmentKey
    rcases hoccurs.step.answers.1 with hanswer | ⟨message, rfl⟩
    · obtain rfl : answer = .ok (some document) :=
        hanswer.trans (congrArg Except.ok (hfound.trans hplace))
      obtain ⟨rfl, hdone⟩ := hrefused document environment rfl hdecode hnot
      exact .refused (hget ▸ hpast) hdone
    · obtain ⟨rfl, error, hdone⟩ := hfailure _ rfl
      exact .unavailable message error hpast hdone

/-- An environment that is no longer alive stays so, and all documents but the counters stay as
they are; who is begun from then on to add machines is turned away.  And the environment is no
longer alive once somebody has ended it. -/
theorem death_is_final (hreachable : Reachable world) (hrun : Run world events later) :
    (world.store.IsDead →
      later.store.IsDead ∧
      (∀ collection ≠ Layout.sequence, ∀ id,
        later.store.get? collection id = world.store.get? collection id) ∧
      ∀ index thread, later.threads[index]? = some thread → world.threads.length ≤ index →
        thread.task.Adds → thread.TurnedAway later.store) ∧
    ∀ controller past,
      ⟨.request controller .destroyEnvironment, past, .done (.ok ())⟩ ∈ world.threads →
        world.store.IsDead ∧ later.store.IsDead := by
  constructor
  · intro hdead
    obtain ⟨hlater, hsame⟩ := hrun.frozen hreachable hdead
    refine ⟨hlater, hsame, ?_⟩
    intro index thread hthread hindex hadds
    exact hrun.turnedAway hreachable hdead hthread hindex hadds
  · intro controller past hthread
    have hdead := hreachable.isDead_of_destroyed hthread
    exact ⟨hdead, (hrun.frozen hreachable hdead).1⟩

namespace World

/-- The founded world, after the environment has been ended. -/
def ended : World :=
  founded.perform none .ending

theorem reachable_ended : Reachable ended := by
  unfold ended perform
  exact reachable_founded.carry _ none _ (permits_founded _)

theorem permits_ended (asked : Request) : ended.Permits (.request usual asked) := by
  unfold ended perform
  exact (permits_founded _).carry none _ _

end World

/-- In the founded world the environment is ended, and a machine is then asked for in vain. -/
theorem death_is_final_founded :
    ∃ (world later : World) (events : List Event) (thread : Thread),
      Reachable world ∧ Run world events later ∧ world.store.IsDead ∧ later.store.IsDead ∧
        thread ∈ later.threads ∧ thread.task.Adds ∧ thread.TurnedAway later.store := by
  obtain ⟨events, hrun⟩ := Run.carry (.request World.usual (.addMachine World.plain)) none
    (fun _ => false) (World.permits_ended _)
  have hdead : World.ended.store.IsDead := ⟨.dying, by decide +kernel, nofun⟩
  obtain ⟨hlater, -, haway⟩ := (death_is_final World.reachable_ended hrun).1 hdead
  have hthread := World.ended.getElem?_carry none (fun _ => false)
    (.request World.usual (.addMachine World.plain))
  exact ⟨World.ended, _, events, _, World.reachable_ended, hrun, hdead, hlater,
    List.mem_of_getElem? hthread, trivial, haway _ _ hthread (Nat.le_refl _) trivial⟩

end ControlPlane
