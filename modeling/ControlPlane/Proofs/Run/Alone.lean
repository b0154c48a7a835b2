import ControlPlane.Execution
import ControlPlane.Proofs.Run.Timeline

/-!
# Tasks without interference

A task that nothing comes between is a run of its session on the store alone.
So every task may be performed from beginning to end in a reachable world, and
the world it leads to can be computed.
-/

namespace ControlPlane

/-- How a store that nobody else works on and that does not fail answers a call. -/
def Store.reply (store : Store) (policy : Option Policy) (call : Call) : call.Answer × Store :=
  let (answer, around) := Surroundings.answer policy call { shared := { store } }
  (answer, around.shared.store)

theorem Store.answers_reply (store : Store) (policy : Option Policy) (call : Call) :
    Answers store call (store.reply policy call).1 (store.reply policy call).2 := by
  cases call with
  | get collection id => exact ⟨.inl rfl, rfl⟩
  | increment collection id field => exact .inl rfl
  | transact ops =>
    change Answers store (.transact ops) (SharedStore.commitOwn { store } ops).1
      (SharedStore.commitOwn { store } ops).2.store
    unfold SharedStore.commitOwn
    cases hcommit : store.transact ops with
    | ok after => exact .inl ⟨rfl, hcommit⟩
    | error failure => exact .inr ⟨⟨failure, rfl, .inl hcommit⟩, rfl⟩
  | prechecker => cases policy <;> rfl
  | precheck series constraints => cases policy <;> rfl

/-- Runs a session on a store alone up to the first call at which it is to pause,
and keeps what is asked and answered. -/
def Session.converse {α : Type} (policy : Option Policy) (pauses : Call → Bool) :
    Session α → Store → History → Session α × Store × History
  | done result, store, past => (done result, store, past)
  | ask call next, store, past =>
    if pauses call then (ask call next, store, past)
    else
      let (answer, after) := store.reply policy call
      (next answer).converse policy pauses after (past ++ [⟨call, answer⟩])

namespace Session

variable {α : Type}

/-- Whether a session is done, and has a result that passes a test. -/
def endsWith (test : α → Bool) : Session α → Bool
  | done result => test result
  | ask _ _ => false

theorem exists_of_endsWith {session : Session α} {test : α → Bool}
    (h : session.endsWith test = true) : ∃ result, session = .done result ∧ test result = true := by
  cases session with
  | done result => exact ⟨result, rfl, h⟩
  | ask call next => cases h

end Session

/-- Whether a call is the one that commits. -/
def Call.isTransact : Call → Bool
  | .transact _ => true
  | _ => false

namespace World

/-- A task that may be begun in a world. -/
def Permits (world : World) : Task → Prop
  | .establish _ _ _ => True
  | .request controller _ => controller ∈ world.controllers

/-- The world after a task has been carried on without interference to where it pauses. -/
def carry (world : World) (policy : Option Policy) (pauses : Call → Bool) (task : Task) : World :=
  let (rest, store, past) := task.procedure.run.converse policy pauses world.store []
  { world with
    store
    threads := world.threads ++ [{ task, past, rest }] }

/-- The world after a task has been performed from beginning to end. -/
def perform (world : World) (policy : Option Policy) (task : Task) : World :=
  world.carry policy (fun _ => false) task

/-- The world in which a task is about to commit. -/
def prepare (world : World) (policy : Option Policy) (task : Task) : World :=
  world.carry policy Call.isTransact task

end World

variable {world : World}

theorem Reachable.gain (quorum : QuorumConfig) {controller : Controller} (h : Reachable world)
    (hattach : Controller.attach quorum = .ok controller) : Reachable (world.gain controller) :=
  h.step (.attach hattach)

theorem Step.begin {task : Task} (hpermits : world.Permits task) :
    ∃ event, Step world event (world.begin task) := by
  cases task with
  | establish quorum uuid constraints => exact ⟨_, .establish quorum uuid constraints⟩
  | request controller asked => exact ⟨_, .request hpermits asked⟩

/-- A thread may go on to where it pauses. -/
theorem Run.converse (policy : Option Policy) (pauses : Call → Bool) {index : Nat} {task : Task}
    (rest : Session (Except Error task.Result)) {past : History}
    (hthread : world.threads[index]? = some ⟨task, past, rest⟩) :
    ∃ events, Run world events
      { world with
        store := (rest.converse policy pauses world.store past).2.1
        threads := world.threads.set index
          ⟨task, (rest.converse policy pauses world.store past).2.2,
            (rest.converse policy pauses world.store past).1⟩ } := by
  induction rest generalizing world past with
  | done result =>
    obtain ⟨hindex, hget⟩ := List.getElem?_eq_some_iff.mp hthread
    rw [Session.converse, ← hget, List.set_getElem_self]
    exact ⟨[], .nil⟩
  | ask call next ih =>
    obtain ⟨hindex, hget⟩ := List.getElem?_eq_some_iff.mp hthread
    rw [Session.converse]
    split
    · rw [← hget, List.set_getElem_self]
      exact ⟨[], .nil⟩
    · let answer := (world.store.reply policy call).1
      let middle : World :=
        { world with
          store := (world.store.reply policy call).2
          threads := world.threads.set index ⟨task, past ++ [⟨call, answer⟩], next answer⟩ }
      have hstep : Step world (.exchanged index ⟨call, answer⟩) middle :=
        .exchange hthread rfl (world.store.answers_reply policy call)
      have hself : middle.threads[index]? = some ⟨task, past ++ [⟨call, answer⟩], next answer⟩ :=
        List.getElem?_set_self hindex
      obtain ⟨events, hrun⟩ := ih answer hself
      rw [List.set_set] at hrun
      exact ⟨_, .cons hstep hrun⟩

theorem Run.carry (task : Task) (policy : Option Policy) (pauses : Call → Bool)
    (hpermits : world.Permits task) :
    ∃ events, Run world events (world.carry policy pauses task) := by
  obtain ⟨event, hbegin⟩ := Step.begin hpermits
  have hthread : (world.begin task).threads[world.threads.length]? = some (.start task) := by
    simp [World.begin]
  obtain ⟨events, hrun⟩ := Run.converse policy pauses task.procedure.run hthread
  refine ⟨event :: events, .cons hbegin ?_⟩
  simpa [World.begin, World.carry] using hrun

/-- A task that may be begun may be so after another one. -/
theorem World.Permits.carry {task : Task} (h : world.Permits task) (policy : Option Policy)
    (pauses : Call → Bool) (other : Task) : (world.carry policy pauses other).Permits task := by
  cases task with
  | establish quorum uuid constraints => trivial
  | request controller asked => exact h

theorem Reachable.carry (task : Task) (h : Reachable world) (policy : Option Policy)
    (pauses : Call → Bool) (hpermits : world.Permits task) :
    Reachable (world.carry policy pauses task) := by
  obtain ⟨events, hrun⟩ := Run.carry task policy pauses hpermits
  exact h.run hrun

namespace World

theorem getElem?_carry (world : World) (policy : Option Policy) (pauses : Call → Bool)
    (task : Task) :
    (world.carry policy pauses task).threads[world.threads.length]? =
      some ⟨task, (task.procedure.run.converse policy pauses world.store []).2.2,
        (task.procedure.run.converse policy pauses world.store []).1⟩ :=
  List.getElem?_concat_length

/-- A task that ends without interference is a thread with its result. -/
theorem exists_thread_of_endsWith (world : World) (policy : Option Policy) (pauses : Call → Bool)
    (task : Task) {test : Except Error task.Result → Bool}
    (hends : (task.procedure.run.converse policy pauses world.store []).1.endsWith test = true) :
    ∃ past result, (world.carry policy pauses task).threads[world.threads.length]? =
      some ⟨task, past, .done result⟩ ∧ test result = true := by
  obtain ⟨result, hresult, htest⟩ := Session.exists_of_endsWith hends
  have hthread := world.getElem?_carry policy pauses task
  rw [hresult] at hthread
  exact ⟨_, result, hthread, htest⟩

theorem getElem?_carry_of_some {index : Nat} {thread : Thread}
    (hthread : world.threads[index]? = some thread) (policy : Option Policy)
    (pauses : Call → Bool) (task : Task) :
    (world.carry policy pauses task).threads[index]? = some thread :=
  (List.getElem?_append_left (List.getElem?_eq_some_iff.mp hthread).1).trans hthread

/-- How a task goes on that is overtaken by another one while it pauses. -/
def overtaken (world : World) (policy : Option Policy) (pauses : Call → Bool)
    (task other : Task) : Session (Except Error task.Result) :=
  let paused := task.procedure.run.converse policy pauses world.store []
  (paused.1.converse policy (fun _ => false)
    ((world.carry policy pauses task).perform policy other).store paused.2.2).1

end World

theorem Reachable.overtaken (h : Reachable world) (policy : Option Policy) (pauses : Call → Bool)
    {task other : Task} (hpermits : world.Permits task) (hother : world.Permits other) :
    ∃ (events : List Event) (later : World) (index : Nat) (past : History),
      Run .initial events later ∧
        later.threads[index]? = some ⟨task, past, world.overtaken policy pauses task other⟩ := by
  obtain ⟨before, hbefore⟩ := h
  obtain ⟨events, hcarry⟩ := Run.carry task policy pauses hpermits
  obtain ⟨events', hperform⟩ :=
    Run.carry other policy (fun _ => false) (hother.carry policy pauses task)
  have hthread := World.getElem?_carry_of_some (world.getElem?_carry policy pauses task) policy
    (fun _ => false) other
  obtain ⟨events'', hresume⟩ := Run.converse policy (fun _ => false) _ hthread
  have hlength := (List.getElem?_eq_some_iff.mp hthread).1
  exact ⟨_, _, _, _, ((hbefore.trans hcarry).trans hperform).trans hresume,
    List.getElem?_set_self hlength⟩

/-- Whether an effect is an update. -/
def Store.Effect.isUpdate : Store.Effect → Bool
  | .update _ => true
  | _ => false

theorem Store.Effect.of_isUpdate {effect : Effect} (h : effect.isUpdate = true) :
    ∃ updates, effect = .update updates := by
  cases effect with
  | update updates => exact ⟨updates, rfl⟩
  | _ => cases h

/-- Whether a thread is about to make a transaction that takes place in a store and has an
operation that passes a test. -/
def Thread.isReady (thread : Thread) (store : Store) (test : Store.Op → Bool) : Bool :=
  match thread.rest with
  | .ask (.transact ops) _ => (store.transact ops).isOk && ops.any test
  | _ => false

/-- A thread that is ready makes its transaction in the next step. -/
theorem World.step_of_isReady {index : Nat} {test : Store.Op → Bool}
    (h : world.threads[index]?.any (·.isReady world.store test) = true) :
    ∃ thread ops later op, world.threads[index]? = some thread ∧
      Step world (.exchanged index ⟨.transact ops, .ok ()⟩) later ∧ op ∈ ops ∧ test op = true := by
  obtain ⟨⟨task, past, rest⟩, hthread, hready⟩ := (Option.any_eq_true _ _).mp h
  cases rest with
  | done result => cases hready
  | ask call next =>
    cases call with
    | transact ops =>
      obtain ⟨hok, hany⟩ := Bool.and_eq_true_iff.mp hready
      obtain ⟨op, hmem, htest⟩ := List.any_eq_true.mp hany
      cases hcommit : world.store.transact ops with
      | error failure =>
        rw [hcommit] at hok
        cases hok
      | ok after =>
        exact ⟨_, ops, _, op, hthread, .exchange hthread rfl (.inl ⟨rfl, hcommit⟩), hmem, htest⟩
    | _ => cases hready

theorem World.commits_of_isReady {index : Nat} {test : Store.Op → Bool}
    (h : world.threads[index]?.any (·.isReady world.store test) = true) :
    ∃ thread ops later op, world.Commits thread ops later ∧ op ∈ ops ∧ test op = true := by
  obtain ⟨thread, ops, later, op, hthread, hstep, hop⟩ := World.step_of_isReady h
  exact ⟨thread, ops, later, op, ⟨index, hthread, hstep⟩, hop⟩

namespace World

/-- A controller with the usual limit on voters. -/
def usual : Controller where
  maxPeers := 7
  odd := rfl

/-- The identifier of a new environment. -/
def uuid : Uuid where
  digits := List.replicate 32 (Fin.last 15)
  length_digits := rfl

/-- An environment with a usual controller, and no machines. -/
def founded : World :=
  (initial.gain usual).perform none (.establish {} uuid {})

/-- An environment with three state servers, the first of which hosts a container. -/
def settled : World :=
  (founded.perform none (.request usual (.ensureAvailability 3 {} "jammy"))).perform none
    (.request usual (.addInside { series := "jammy", jobs := [.hostUnits] } "0" .lxc))

/-- What an environment may ask of all machines. -/
def common : Constraints where
  arch := some "amd64"
  container := some .lxc
  cpuPower := some 100
  mem := some 1024
  tags := some ["ssd"]

/-- What may be asked of a single machine. -/
def wanted : Constraints where
  container := some .kvm
  cpuCores := some 2
  mem := some 2048
  rootDisk := some 8192

/-- What is wanted of a single machine layered over what is common to all of them. -/
def provisioned : Constraints where
  arch := some "amd64"
  cpuCores := some 2
  cpuPower := some 100
  mem := some 2048
  rootDisk := some 8192
  tags := some ["ssd"]

/-- A template that asks for nothing in particular. -/
def plain : Template where
  series := "jammy"
  jobs := [.hostUnits]

/-- A template that asks for what is wanted of a single machine. -/
def sized : Template where
  series := "jammy"
  jobs := [.hostUnits]
  constraints := wanted

/-- The settled world, where the environment has been given constraints since. -/
def constrained : World :=
  settled.perform none (.request usual (.setEnvironmentConstraints common))

theorem permits_founded (asked : Request) : founded.Permits (.request usual asked) := by
  have hgained : (initial.gain usual).Permits (.request usual asked) := List.mem_cons_self
  unfold founded perform
  exact hgained.carry none _ _

theorem permits_settled (asked : Request) : settled.Permits (.request usual asked) := by
  have hraised := (permits_founded asked).carry none (fun _ => false)
    (.request usual (.ensureAvailability 3 {} "jammy"))
  unfold settled perform
  exact hraised.carry none _ _

theorem reachable_founded : Reachable founded := by
  have hgain : Reachable (initial.gain usual) := reachable_initial.gain {} rfl
  unfold founded perform
  apply Reachable.carry
  · exact hgain
  · trivial

theorem reachable_settled : Reachable settled := by
  unfold settled perform
  apply Reachable.carry
  · apply Reachable.carry
    · exact reachable_founded
    · exact permits_founded _
  · exact (permits_founded _).carry none _ _

theorem permits_constrained (asked : Request) : constrained.Permits (.request usual asked) := by
  unfold constrained perform
  exact (permits_settled _).carry none _ _

theorem reachable_constrained : Reachable constrained := by
  unfold constrained perform
  exact reachable_settled.carry _ none _ (permits_settled _)

end World

namespace Task

/-- A request for three state servers. -/
def raising : Task := .request World.usual (.ensureAvailability 3 {} "jammy")

/-- A request to end the environment. -/
def ending : Task := .request World.usual .destroyEnvironment

end Task

end ControlPlane
