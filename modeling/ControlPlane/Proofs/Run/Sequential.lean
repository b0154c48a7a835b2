import ControlPlane.Proofs.Run.Alone
import ControlPlane.Proofs.Session.Interference
import ControlPlane.Proofs.Store.Counting
import ControlPlane.Proofs.Store.Transaction

/-!
# Sequential runs

In a sequential run every task is performed from its beginning to its end
before the next one is begun, so each of its calls finds the store as the call
before has left it.  The store may be unavailable all the same, and policies
may say whatever they like.  What such a run leaves is the store of a world
that a run leads to.
-/

namespace ControlPlane

open Json Store

/-- What a store of a run does is what a store that may fail can do. -/
theorem Answers.serves {store after : Store} {call : Call} {answer : call.Answer}
    (h : Answers store call answer after) : store.Serves call answer after := by
  cases call with
  | get collection id =>
    obtain ⟨hanswer | ⟨message, hmessage⟩, hafter⟩ := h
    · exact ⟨.inl hanswer, hafter⟩
    · exact ⟨.inr ⟨_, hmessage⟩, hafter⟩
  | increment collection id field =>
    rcases h with hcount | ⟨⟨message, hmessage⟩, hafter⟩
    · exact .inl hcount
    · exact .inr ⟨⟨_, hmessage⟩, .inl hafter⟩
  | transact ops =>
    rcases h with hcommit | ⟨⟨failure, hfailure, -⟩, hafter⟩
    · exact .inl hcommit
    · exact .inr ⟨⟨failure, hfailure⟩, hafter⟩
  | prechecker => exact h
  | precheck series constraints => exact h

/-! ## Moments with nothing between them -/

/-- Two stores have the same documents, counters apart. -/
def Store.Alike (store other : Store) : Prop :=
  ∀ ⦃collection : String⦄, collection ≠ Layout.sequence → ∀ id,
    other.get? collection id = store.get? collection id

/-- The moments follow one another: each finds the store that the one before has left. -/
inductive Consecutive : Store → List Moment → Store → Prop where
  | nil (store : Store) : Consecutive store [] store
  | cons {call : Call} {answer : call.Answer} {store middle after : Store}
      {moments : List Moment} (hanswers : Answers store call answer middle)
      (hrest : Consecutive middle moments after) :
      Consecutive store (⟨store, ⟨call, answer⟩, middle⟩ :: moments) after

/-- A moment that writes nothing but a counter leaves all other documents alone. -/
theorem Moment.get?_eq {moment : Moment} (h : moment.Idle ∨ moment.Counts) {collection : String}
    (hcollection : collection ≠ Layout.sequence) (id : String) :
    moment.after.get? collection id = moment.before.get? collection id := by
  rcases h with hidle | ⟨counter, -, hcounts⟩
  · rw [hidle]
  · rw [hcounts]
    exact get?_increment_of_ne _ hcollection counter "counter" id

namespace Consecutive

variable {store middle after : Store} {moments earlier later : List Moment}

theorem answers (h : Consecutive store moments after) : ∀ moment ∈ moments,
    Answers moment.before moment.exchange.call moment.exchange.answer moment.after := by
  induction h with
  | nil store => exact List.forall_mem_nil _
  | cons hanswers _ ih => exact List.forall_mem_cons.mpr ⟨hanswers, ih⟩

theorem exists_of_append (h : Consecutive store (earlier ++ later) after) :
    ∃ middle, Consecutive store earlier middle ∧ Consecutive middle later after := by
  induction earlier generalizing store with
  | nil => exact ⟨store, .nil store, h⟩
  | cons first rest ih =>
    cases h with
    | cons hanswers hrest =>
      obtain ⟨middle, hearlier, hlater⟩ := ih hrest
      exact ⟨middle, .cons hanswers hearlier, hlater⟩

/-- A document that is left alone at every moment is as it was at first. -/
theorem get?_eq_of_each (h : Consecutive store moments after) {collection id : String}
    (heach : ∀ moment ∈ moments,
      moment.after.get? collection id = moment.before.get? collection id) :
    after.get? collection id = store.get? collection id := by
  induction h with
  | nil store => rfl
  | cons hanswers _ ih =>
    obtain ⟨hfirst, hrest⟩ := List.forall_mem_cons.mp heach
    exact (ih hrest).trans hfirst

section Quiet

variable (hquiet : ∀ moment ∈ moments, moment.Idle ∨ moment.Counts)

include hquiet

theorem alike (h : Consecutive store moments after) : store.Alike after := by
  intro collection hcollection id
  apply h.get?_eq_of_each
  intro moment hmem
  exact Moment.get?_eq (hquiet moment hmem) hcollection id

/-- What has been read in the meantime is what there was at first. -/
theorem get?_eq_of_mem (h : Consecutive store moments after) {collection id : String}
    {document : Value} (hcollection : collection ≠ Layout.sequence)
    (hmem : (⟨.get collection id, .ok (some document)⟩ : Exchange) ∈ exchanges moments) :
    store.get? collection id = some document := by
  induction h with
  | nil store => cases hmem
  | cons hanswers _ ih =>
    obtain ⟨hfirst, hrest⟩ := List.forall_mem_cons.mp hquiet
    rcases List.mem_cons.mp hmem with heq | hmem
    · cases heq
      exact hanswers.get?_eq.1
    · exact (Moment.get?_eq hfirst hcollection id).symm.trans (ih hrest hmem)

end Quiet

end Consecutive

namespace Session

variable {α : Type}

theorem Converses.trans {session middle rest : Session α} {moments moments' : List Moment}
    (h : session.Converses moments middle) (h' : middle.Converses moments' rest) :
    session.Converses (moments ++ moments') rest := by
  induction h with
  | nil _ => exact h'
  | cons hserves _ ih => exact .cons hserves (ih h')

variable (session : Session α) (policy : Option Policy) (pauses : Call → Bool) (store : Store)
  (past : History)

/-- What a session does on a store alone is one of the ways it can go, with the exchanges that are
kept and nothing between them. -/
theorem exists_consecutive :
    ∃ moments, session.Converses moments (session.converse policy pauses store past).1 ∧
      past ++ exchanges moments = (session.converse policy pauses store past).2.2 ∧
      Consecutive store moments (session.converse policy pauses store past).2.1 := by
  induction session generalizing store past with
  | done result => exact ⟨[], .nil _, List.append_nil _, .nil _⟩
  | ask call next ih =>
    rw [converse]
    split
    · exact ⟨[], .nil _, List.append_nil _, .nil _⟩
    · have hanswers := store.answers_reply policy call
      obtain ⟨moments, hmoments, hpast, hconsecutive⟩ :=
        ih (store.reply policy call).1 (store.reply policy call).2 _
      rw [List.append_assoc] at hpast
      exact ⟨_ :: moments, .cons hanswers.serves hmoments, hpast, .cons hanswers hconsecutive⟩

theorem exists_converses_answered :
    ∃ moments, session.Converses moments (session.converse policy pauses store past).1 ∧
      past ++ exchanges moments = (session.converse policy pauses store past).2.2 ∧
      ∀ moment ∈ moments,
        Answers moment.before moment.exchange.call moment.exchange.answer moment.after := by
  obtain ⟨moments, hmoments, hpast, hconsecutive⟩ :=
    session.exists_consecutive policy pauses store past
  exact ⟨moments, hmoments, hpast, hconsecutive.answers⟩

end Session

/-- A task that is overtaken by another one has a conversation, each call of which is answered by
the store that it finds. -/
theorem World.exists_converses_overtaken (world : World) (policy : Option Policy)
    (pauses : Call → Bool) (task other : Task) :
    ∃ moments, task.procedure.run.Converses moments (world.overtaken policy pauses task other) ∧
      ∀ moment ∈ moments,
        Answers moment.before moment.exchange.call moment.exchange.answer moment.after := by
  let paused := task.procedure.run.converse policy pauses world.store []
  obtain ⟨earlier, hearlier, -, hbefore⟩ :=
    task.procedure.run.exists_converses_answered policy pauses world.store []
  obtain ⟨later, hlater, -, hafter⟩ := paused.1.exists_converses_answered policy (fun _ => false)
    ((world.carry policy pauses task).perform policy other).store paused.2.2
  refine ⟨earlier ++ later, hearlier.trans hlater, ?_⟩
  intro moment hmem
  rcases List.mem_append.mp hmem with hmem | hmem
  · exact hbefore moment hmem
  · exact hafter moment hmem

/-! ## Tasks that are performed -/

/-- A task is performed on a store from its beginning to its end, with nothing between its calls. -/
def Task.Performed (task : Task) (store : Store) (result : Except Error task.Result)
    (after : Store) : Prop :=
  ∃ moments, task.procedure.run.Converses moments (.done result) ∧
    Consecutive store moments after

/-- A task that is performed in a world alone and has its result is performed on its store. -/
theorem World.exists_performed (world : World) (policy : Option Policy) (task : Task)
    (hends : (task.procedure.run.converse policy (fun _ => false) world.store []).1.endsWith
      Except.isOk = true) :
    ∃ value, task.Performed world.store (.ok value) (world.perform policy task).store := by
  obtain ⟨result, hresult, hok⟩ := Session.exists_of_endsWith hends
  obtain ⟨moments, hconverses, -, hconsecutive⟩ :=
    task.procedure.run.exists_consecutive policy (fun _ => false) world.store []
  cases result with
  | error error => cases hok
  | ok value => exact ⟨value, moments, hresult ▸ hconverses, hconsecutive⟩

/-- A task that has been performed, and what it has resulted in. -/
structure Performance where
  task : Task
  result : Except Error task.Result

/-- Tasks are performed one after the other. -/
inductive Store.Undergoes (store : Store) : List Performance → Store → Prop where
  | nil : Undergoes store [] store
  | snoc {performances : List Performance} {task : Task} {result : Except Error task.Result}
      {middle after : Store} (h : Undergoes store performances middle)
      (hlast : task.Performed middle result after) :
      Undergoes store (performances ++ [⟨task, result⟩]) after

namespace Reachable

variable {world : World} {after : Store} {task : Task}

/-- A thread may go on from what its world holds. -/
theorem converse {index : Nat} {past : History} {session rest : Session (Except Error task.Result)}
    {moments : List Moment} (h : Reachable world)
    (hthread : world.threads[index]? = some ⟨task, past, session⟩)
    (hconverses : session.Converses moments rest)
    (hconsecutive : Consecutive world.store moments after) :
    ∃ later, Reachable later ∧ later.store = after := by
  induction hconverses generalizing world past with
  | nil session =>
    cases hconsecutive
    exact ⟨world, h, rfl⟩
  | cons _ _ ih =>
    cases hconsecutive with
    | cons hanswers hrest =>
      obtain ⟨hindex, -⟩ := List.getElem?_eq_some_iff.mp hthread
      exact ih (h.step (.exchange hthread rfl hanswers)) (List.getElem?_set_self hindex) hrest

/-- Every task may be begun, if need be by a controller that is attached for it. -/
theorem exists_permits (h : Reachable world) (task : Task) :
    ∃ later, Reachable later ∧ later.store = world.store ∧ later.Permits task := by
  cases task with
  | establish quorum uuid constraints => exact ⟨world, h, rfl, trivial⟩
  | request controller asked =>
    have hattach : Controller.attach ⟨controller.maxPeers⟩ = .ok controller :=
      dif_pos controller.odd
    exact ⟨_, h.gain _ hattach, rfl, List.mem_append_right _ (List.mem_singleton_self _)⟩

/-- What a task leaves that is performed in a reachable world is the store of a reachable world. -/
theorem performed {result : Except Error task.Result} (h : Reachable world)
    (hperformed : task.Performed world.store result after) :
    ∃ later, Reachable later ∧ later.store = after := by
  obtain ⟨moments, hconverses, hconsecutive⟩ := hperformed
  obtain ⟨ready, hready, hstore, hpermits⟩ := h.exists_permits task
  obtain ⟨event, hbegin⟩ := Step.begin hpermits
  have hthread : (ready.begin task).threads[ready.threads.length]? = some (.start task) := by
    simp [World.begin]
  rw [← hstore] at hconsecutive
  exact (hready.step hbegin).converse hthread hconverses hconsecutive

theorem undergoes {performances : List Performance} (h : Reachable world)
    (hundergoes : world.store.Undergoes performances after) :
    ∃ later, Reachable later ∧ later.store = after := by
  induction hundergoes with
  | nil => exact ⟨world, h, rfl⟩
  | snoc _ hlast ih =>
    obtain ⟨later, hlater, rfl⟩ := ih
    exact hlater.performed hlast

end Reachable

end ControlPlane
