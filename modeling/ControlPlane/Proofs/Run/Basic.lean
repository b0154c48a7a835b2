import ControlPlane.Availability
import ControlPlane.Machine.Addition
import ControlPlane.Machine.Inspection
import ControlPlane.Proofs.Session.Conduct
import ControlPlane.Store.Basic

/-!
# Runs of any number of controllers on one store

A world holds a store, the controllers that exist, and a thread for every task
that has been begun.  In one step a controller comes to be, a task is begun,
or one thread makes its next call and is answered; so the calls of different
threads follow one another in any order.  The store answers as it is at that
moment, unless it is unavailable, which changes nothing.  Policies may say
whatever they like.
-/

namespace ControlPlane

open Json

/-- What a controller can be asked to do. -/
inductive Request where
  | environment
  | environmentConstraints
  | setEnvironmentConstraints (constraints : Constraints)
  | destroyEnvironment
  | nextNumber (counter : String)
  | stateServers
  | ensureAvailability (target : Nat) (constraints : Constraints) (series : String)
  | machine (id : String)
  | containers (id : String)
  | machineConstraints (id : String)
  | machineStatus (id : String)
  | instanceData (id : String)
  | setSupportedContainers (id : String) (kinds : List ContainerType)
  | addMachines (templates : List Template)
  | addMachine (template : Template)
  | addInside (template : Template) (parent : String) (kind : ContainerType)
  | addInsideNew (template parentTemplate : Template) (kind : ContainerType)

namespace Request

/-- What a request results in. -/
abbrev Result : Request → Type
  | environment => Environment
  | environmentConstraints => Constraints
  | setEnvironmentConstraints _ => Unit
  | destroyEnvironment => Unit
  | nextNumber _ => Nat
  | stateServers => StateServers
  | ensureAvailability _ _ _ => Unit
  | machine _ => Machine
  | containers _ => List String
  | machineConstraints _ => Constraints
  | machineStatus _ => StatusRecord
  | instanceData _ => InstanceData
  | setSupportedContainers _ _ => Unit
  | addMachines _ => List Machine
  | addMachine _ => Machine
  | addInside _ _ _ => Machine
  | addInsideNew _ _ _ => Machine

/-- How a controller carries a request out. -/
def procedure (controller : Controller) : (asked : Request) → Procedure asked.Result
  | environment => Environment.fetch
  | environmentConstraints => Environment.constraints
  | setEnvironmentConstraints constraints => Environment.setConstraints constraints
  | destroyEnvironment => Environment.destroy
  | nextNumber counter => ControlPlane.nextNumber counter
  | stateServers => StateServers.fetch
  | ensureAvailability target constraints series =>
    controller.ensureAvailability target constraints series
  | machine id => Machine.fetch id
  | containers id => Machine.containers id
  | machineConstraints id => Machine.constraints id
  | machineStatus id => Machine.status id
  | instanceData id => Machine.instanceData id
  | setSupportedContainers id kinds => Machine.setSupportedContainers id kinds
  | addMachines templates => Machine.addAll templates
  | addMachine template => Machine.add template
  | addInside template parent kind => Machine.addInside template parent kind
  | addInsideNew template parentTemplate kind =>
    Machine.addInsideNew template parentTemplate kind

end Request

/-- What a thread can be about: making an environment, or a request to a controller. -/
inductive Task where
  | establish (quorum : QuorumConfig) (uuid : Uuid) (constraints : Constraints)
  | request (controller : Controller) (asked : Request)

namespace Task

/-- What a task results in. -/
abbrev Result : Task → Type
  | establish _ _ _ => Controller
  | request _ asked => asked.Result

/-- How a task is carried out. -/
def procedure : (task : Task) → Procedure task.Result
  | establish quorum uuid constraints => Controller.establish quorum uuid constraints
  | request controller asked => asked.procedure controller

end Task

/-- A task that has been begun, with what it has asked so far and how it goes on. -/
structure Thread where
  task : Task
  past : History
  rest : Session (Except Error task.Result)

namespace Thread

/-- A task that has not asked anything yet. -/
def start (task : Task) : Thread where
  task := task
  past := []
  rest := task.procedure.run

/-- A thread after one more exchange. -/
def advance (thread : Thread) (exchange : Exchange)
    (rest : Session (Except Error thread.task.Result)) : Thread where
  task := thread.task
  past := thread.past ++ [exchange]
  rest := rest

end Thread

/-- A store, the controllers that exist and the tasks that have been begun. -/
structure World where
  store : Store
  controllers : List Controller
  threads : List Thread

namespace World

/-- The world before anything has happened. -/
def initial : World where
  store := .empty
  controllers := []
  threads := []

/-- The world with one more controller. -/
def gain (world : World) (controller : Controller) : World :=
  { world with controllers := world.controllers ++ [controller] }

/-- The world in which one more task has been begun. -/
def begin (world : World) (task : Task) : World :=
  { world with threads := world.threads ++ [.start task] }

/-- The limit on voting state servers of the most generous controller. -/
def peerLimit (world : World) : Nat :=
  (world.controllers.map (·.maxPeers)).foldr max 0

end World

/-- The store finds itself unavailable, and the call does nothing. -/
def Unavailable {α : Type} (answer : Except StoreError α) : Prop :=
  ∃ message, answer = .error (.unavailable message)

/-- How a call on a store may be answered, with the store afterwards. -/
def Answers (store : Store) : (call : Call) → call.Answer → Store → Prop
  | .get collection id, answer, after =>
    (answer = .ok (store.get? collection id) ∨ Unavailable answer) ∧ after = store
  | .increment collection id field, answer, after =>
    (answer, after) = store.increment collection id field ∨ Unavailable answer ∧ after = store
  | .transact ops, answer, after =>
    (answer = .ok () ∧ store.transact ops = .ok after) ∨
      (∃ failure, answer = .error failure ∧
        (store.transact ops = .error failure ∨ Unavailable answer)) ∧ after = store
  | .prechecker, _, after => after = store
  | .precheck _ _, _, after => after = store

/-- What the store answers when it is asked for a document is what it has, and it stays so. -/
theorem Answers.get?_eq {store after : Store} {collection id : String} {document? : Option Value}
    (h : Answers store (.get collection id) (.ok document?) after) :
    store.get? collection id = document? ∧ after = store := by
  obtain ⟨hanswer | ⟨message, hmessage⟩, hafter⟩ := h
  · exact ⟨(Except.ok.inj hanswer).symm, hafter⟩
  · cases hmessage

/-- What happens in one step of a world. -/
inductive Event where
  | gained (controller : Controller)
  | begun (task : Task)
  | exchanged (index : Nat) (exchange : Exchange)

/-- One step of a world. -/
inductive Step (world : World) : Event → World → Prop where
  /-- A controller is attached to the store. -/
  | attach {quorum : QuorumConfig} {controller : Controller}
      (h : Controller.attach quorum = .ok controller) :
      Step world (.gained controller) (world.gain controller)
  /-- A task that makes an environment has resulted in a controller. -/
  | established {quorum : QuorumConfig} {uuid : Uuid} {constraints : Constraints}
      {past : History} {controller : Controller}
      (h : ⟨.establish quorum uuid constraints, past, .done (.ok controller)⟩ ∈ world.threads) :
      Step world (.gained controller) (world.gain controller)
  /-- The making of an environment is begun. -/
  | establish (quorum : QuorumConfig) (uuid : Uuid) (constraints : Constraints) :
      Step world (.begun (.establish quorum uuid constraints))
        (world.begin (.establish quorum uuid constraints))
  /-- A request to a controller that exists is begun. -/
  | request {controller : Controller} (h : controller ∈ world.controllers) (asked : Request) :
      Step world (.begun (.request controller asked)) (world.begin (.request controller asked))
  /-- A thread makes its next call and is answered. -/
  | exchange {index : Nat} {thread : Thread} {call : Call}
      {next : call.Answer → Session (Except Error thread.task.Result)} {answer : call.Answer}
      {after : Store} (hthread : world.threads[index]? = some thread)
      (hrest : thread.rest = .ask call next) (hanswer : Answers world.store call answer after) :
      Step world (.exchanged index ⟨call, answer⟩)
        { world with
          store := after
          threads := world.threads.set index (thread.advance ⟨call, answer⟩ (next answer)) }

/-- A run of a world through a list of events. -/
inductive Run (world : World) : List Event → World → Prop where
  | nil : Run world [] world
  | snoc {events : List Event} {event : Event} {middle later : World} :
      Run world events middle → Step middle event later → Run world (events ++ [event]) later

/-- The worlds that a run from the beginning leads to. -/
def Reachable (world : World) : Prop :=
  ∃ events, Run .initial events world

theorem reachable_initial : Reachable .initial :=
  ⟨[], .nil⟩

theorem Reachable.step {world later : World} {event : Event} (h : Reachable world)
    (hstep : Step world event later) : Reachable later := by
  obtain ⟨events, hrun⟩ := h
  exact ⟨events ++ [event], hrun.snoc hstep⟩

/-- What holds at first and is kept by every step from a reachable world holds in every
reachable world. -/
theorem Reachable.induct {property : World → Prop} (hinitial : property .initial)
    (hstep : ∀ {world event later}, Reachable world → property world →
      Step world event later → property later)
    {world : World} (h : Reachable world) : property world := by
  obtain ⟨events, hrun⟩ := h
  induction hrun with
  | nil => exact hinitial
  | snoc hbefore hlast ih => exact hstep ⟨_, hbefore⟩ ih hlast

theorem Reachable.run {world later : World} {events : List Event} (h : Reachable world)
    (hrun : Run world events later) : Reachable later := by
  induction hrun with
  | nil => exact h
  | snoc _ hlast ih => exact ih.step hlast

/-- A thread makes a transaction, which takes place. -/
def World.Commits (world : World) (thread : Thread) (ops : List Store.Op) (later : World) : Prop :=
  ∃ index, world.threads[index]? = some thread ∧
    Step world (.exchanged index ⟨.transact ops, .ok ()⟩) later

/-- A transaction that takes place is what its thread asks for next. -/
theorem World.Commits.cases {world later : World} {thread : Thread} {ops : List Store.Op}
    (h : world.Commits thread ops later) :
    thread ∈ world.threads ∧ (∃ next, thread.rest = .ask (.transact ops) next) ∧
      world.store.transact ops = .ok later.store := by
  obtain ⟨index, hthread, hstep⟩ := h
  cases hstep with
  | @exchange _ other _ next _ after hother hrest hanswer =>
    obtain rfl : thread = other := Option.some.inj (hthread.symm.trans hother)
    refine ⟨List.mem_of_getElem? hthread, ⟨next, hrest⟩, ?_⟩
    rcases hanswer with ⟨-, hcommit⟩ | ⟨⟨failure, hfailure, -⟩, -⟩
    · exact hcommit
    · cases hfailure

end ControlPlane
