import ControlPlane.Proofs.Environment.Committing
import ControlPlane.Proofs.Store.Folding
import Mathlib.Logic.Relation

/-!
# Batches committed beside a run

While controllers go about their tasks any batches may be committed that leave
the environment alone, and each of them remembers the stores that its calls have
found.  The environment gets older from each of these stores to the next, and
from the last of them to the present one.
-/

namespace ControlPlane

open Json Store

/-! ## How the environment ages -/

/-- From one store to another the environment has got older: if it existed it still exists, and if
it was no longer alive it is not alive again. -/
structure Store.Ages (store after : Store) : Prop where
  founded : store.life?.isSome = true → after.life?.isSome = true
  dead : store.IsDead → after.IsDead

namespace Store

variable {store middle after : Store} {environment? environment?' : Option Environment}

theorem ages_refl (store : Store) : store.Ages store :=
  ⟨id, id⟩

theorem Ages.trans (h : store.Ages middle) (h' : middle.Ages after) : store.Ages after :=
  ⟨h'.founded ∘ h.founded, h'.dead ∘ h.dead⟩

/-- Where the environment was alive at the end it was alive before, if it existed. -/
theorem Ages.alive (h : store.Ages after) (hsome : store.life?.isSome = true)
    (halive : after.life? = some .alive) : store.life? = some .alive := by
  obtain ⟨life, hlife⟩ := Option.isSome_iff_exists.mp hsome
  by_contra hnot
  obtain ⟨later, hlater, hdead⟩ := h.dead ⟨life, hlife, fun heq => hnot (heq ▸ hlife)⟩
  exact hdead (Option.some.inj (hlater.symm.trans halive))

/-- An environment that exists is alive, or it is no longer so. -/
theorem isDead_of_ne_alive (hsome : store.life?.isSome = true) (h : store.life? ≠ some .alive) :
    store.IsDead := by
  obtain ⟨life, hlife⟩ := Option.isSome_iff_exists.mp hsome
  exact ⟨life, hlife, fun heq => h (heq ▸ hlife)⟩

theorem HasEnvironment.ages (h : store.HasEnvironment environment?)
    (hafter : after.HasEnvironment environment?')
    (hchange : Environment.Change environment? environment?') : store.Ages after := by
  have hbefore := h.life?_eq
  have hlater := hafter.life?_eq
  cases hchange with
  | same =>
    have hsame := hbefore.trans hlater.symm
    exact ⟨fun hsome => hsame ▸ hsome, fun ⟨life, hlife, hnot⟩ => ⟨life, hsame ▸ hlife, hnot⟩⟩
  | establish uuid =>
    refine ⟨fun _ => by rw [hlater]; rfl, ?_⟩
    rintro ⟨life, hlife, -⟩
    cases hbefore.symm.trans hlife
  | destroy environment halive =>
    exact ⟨fun _ => by rw [hlater]; rfl, fun _ => ⟨.dying, hlater, nofun⟩⟩

end Store

/-! ## What each answer keeps -/

theorem Answers.holdsObjects {store after : Store} {call : Call} {answer : call.Answer}
    (h : Answers store call answer after) (hobjects : store.HoldsObjects) :
    after.HoldsObjects := by
  cases call with
  | get collection id => exact h.2 ▸ hobjects
  | increment collection id field =>
    rcases h with hcount | ⟨-, rfl⟩
    · rw [(Prod.mk.inj hcount).2]
      exact hobjects.increment collection id field
    · exact hobjects
  | transact ops =>
    rcases h with ⟨-, hcommit⟩ | ⟨-, rfl⟩
    · exact hobjects.transact hcommit
    · exact hobjects
  | prechecker => exact (show after = store from h) ▸ hobjects
  | precheck series constraints => exact (show after = store from h) ▸ hobjects

section Step

variable {world later : World} {event : Event} {environment? : Option Environment}

theorem Step.holdsObjects (h : Step world event later) (hobjects : world.store.HoldsObjects) :
    later.store.HoldsObjects := by
  cases h with
  | exchange _ _ hanswer => exact hanswer.holdsObjects hobjects
  | _ => exact hobjects

/-- In a step the environment changes in one of the ways there are. -/
theorem Step.hasEnvironment (h : Step world event later)
    (hconducted : ∀ thread ∈ world.threads, thread.Conducted world.peerLimit)
    (henvironment : world.store.HasEnvironment environment?) :
    ∃ environment?', later.store.HasEnvironment environment?' ∧
      Environment.Change environment? environment?' := by
  rcases h.unchanged_or_commit hconducted with hsame | ⟨index, thread, ops, -, -, hops, hcommit⟩
  · have hcounters : Layout.environments ≠ Layout.sequence := by decide
    exact ⟨environment?, (hsame _ hcounters _).trans henvironment, .same _⟩
  · exact henvironment.submission hops hcommit

end Step

/-! ## Batches and the stores they have found -/

/-- A batch that is being committed, with what has happened so far and how it goes on. -/
structure Attempt where
  ops : List Op
  moments : List Moment
  rest : Session (Except Error Unit)

namespace Attempt

/-- A batch for which nothing has been asked yet. -/
def start (ops : List Op) : Attempt where
  ops := ops
  moments := []
  rest := (commit ops).run

/-- An attempt after one more call. -/
def advance (attempt : Attempt) (moment : Moment) (rest : Session (Except Error Unit)) :
    Attempt where
  ops := attempt.ops
  moments := attempt.moments ++ [moment]
  rest := rest

end Attempt

/-- A world, and batches that are committed beside its threads. -/
structure Scene where
  world : World
  attempts : List Attempt

namespace Scene

/-- The scene before anything has happened. -/
def initial : Scene where
  world := .initial
  attempts := []

/-- One step of a scene. -/
inductive Step (scene : Scene) : Scene → Prop where
  /-- The controllers go on. -/
  | proceed {event : Event} {later : World} (h : ControlPlane.Step scene.world event later) :
      Step scene { scene with world := later }
  /-- A batch that does not name the environment is to be committed. -/
  | begin (ops : List Op) (h : ∀ op ∈ ops, op.collection ≠ Layout.environments) :
      Step scene { scene with attempts := scene.attempts ++ [.start ops] }
  /-- The next call for a batch is answered. -/
  | exchange {index : Nat} {attempt : Attempt} {call : Call}
      {next : call.Answer → Session (Except Error Unit)} {answer : call.Answer} {after : Store}
      (hattempt : scene.attempts[index]? = some attempt) (hrest : attempt.rest = .ask call next)
      (hanswer : Answers scene.world.store call answer after) :
      Step scene
        { world := { scene.world with store := after }
          attempts := scene.attempts.set index
            (attempt.advance ⟨scene.world.store, ⟨call, answer⟩, after⟩ (next answer)) }

/-- One scene leads to another by some steps. -/
abbrev Run : Scene → Scene → Prop :=
  Relation.ReflTransGen Step

/-- The scenes that a run from the beginning leads to. -/
def Reachable (scene : Scene) : Prop :=
  Run .initial scene

end Scene

/-- A moment as a run has it: in a store of objects the call was answered as it may be. -/
structure Moment.Genuine (moment : Moment) : Prop where
  answers : Answers moment.before moment.exchange.call moment.exchange.answer moment.after
  objects : moment.before.HoldsObjects
  environment : ∃ environment?, moment.before.HasEnvironment environment?

/-- A batch does not name the environment, its calls were answered as in a run, and with each of
them the environment had got older. -/
structure Attempt.Sound (store : Store) (attempt : Attempt) : Prop where
  apart : ∀ op ∈ attempt.ops, op.collection ≠ Layout.environments
  converses : (commit attempt.ops).run.Converses attempt.moments attempt.rest
  genuine : ∀ moment ∈ attempt.moments, moment.Genuine
  ordered : attempt.moments.Pairwise fun earlier later => earlier.before.Ages later.before
  past : ∀ moment ∈ attempt.moments, moment.before.Ages store

namespace Attempt.Sound

variable {attempt : Attempt} {store after : Store} {call : Call}
  {next : call.Answer → Session (Except Error Unit)} {answer : call.Answer}
  {environment? : Option Environment}

theorem start {ops : List Op} (h : ∀ op ∈ ops, op.collection ≠ Layout.environments)
    (store : Store) : (Attempt.start ops).Sound store where
  apart := h
  converses := .nil _
  genuine := List.forall_mem_nil _
  ordered := .nil
  past := List.forall_mem_nil _

theorem age (h : attempt.Sound store) (hages : store.Ages after) : attempt.Sound after where
  apart := h.apart
  converses := h.converses
  genuine := h.genuine
  ordered := h.ordered
  past moment hmoment := (h.past moment hmoment).trans hages

/-- The calls for a batch leave the environment as it is. -/
theorem hasEnvironment (h : attempt.Sound store) (hrest : attempt.rest = .ask call next)
    (hanswer : Answers store call answer after) (henvironment : store.HasEnvironment environment?) :
    after.HasEnvironment environment? := by
  have hcommitting := h.converses.committing
  rw [hrest] at hcommitting
  generalize attempt.moments = moments at hcommitting
  cases hcommitting with
  | begun => exact hanswer.2 ▸ henvironment
  | failed _ _ _ => exact hanswer.2 ▸ henvironment
  | checked _ _ =>
    rcases hanswer with ⟨-, hcommit⟩ | ⟨-, rfl⟩
    · obtain ⟨environment, rfl, -, hafter⟩ := henvironment.checkAlive h.apart hcommit
      exact hafter
    · exact henvironment

theorem advance (h : attempt.Sound store) (hrest : attempt.rest = .ask call next)
    (hanswer : Answers store call answer after) (henvironment : store.HasEnvironment environment?)
    (hobjects : store.HoldsObjects) :
    (attempt.advance ⟨store, ⟨call, answer⟩, after⟩ (next answer)).Sound after := by
  have hages : store.Ages after :=
    henvironment.ages (h.hasEnvironment hrest hanswer henvironment) (.same _)
  refine ⟨h.apart, ?_, ?_, ?_, ?_⟩
  · apply h.converses.trans
    rw [hrest]
    exact .cons hanswer.serves (.nil _)
  · intro moment hmoment
    rcases List.mem_append.mp hmoment with hmoment | hmoment
    · exact h.genuine moment hmoment
    · rw [List.mem_singleton.mp hmoment]
      exact ⟨hanswer, hobjects, environment?, henvironment⟩
  · refine List.pairwise_append.mpr ⟨h.ordered, List.pairwise_singleton _ _, ?_⟩
    intro earlier hearlier later hlater
    rw [List.mem_singleton.mp hlater]
    exact h.past earlier hearlier
  · intro moment hmoment
    rcases List.mem_append.mp hmoment with hmoment | hmoment
    · exact (h.past moment hmoment).trans hages
    · rw [List.mem_singleton.mp hmoment]
      exact hages

end Attempt.Sound

namespace Scene

/-- What is true of a scene all along. -/
structure Sound (scene : Scene) : Prop where
  conducted : ∀ thread ∈ scene.world.threads, thread.Conducted scene.world.peerLimit
  objects : scene.world.store.HoldsObjects
  environment : ∃ environment?, scene.world.store.HasEnvironment environment?
  attempts : ∀ attempt ∈ scene.attempts, attempt.Sound scene.world.store

variable {scene later : Scene}

theorem sound_initial : initial.Sound where
  conducted := List.forall_mem_nil _
  objects := holdsObjects_empty
  environment := ⟨none, rfl⟩
  attempts := List.forall_mem_nil _

/-- In a step of a scene the environment gets older, and what was true of it stays so. -/
theorem Sound.step (h : scene.Sound) (hstep : scene.Step later) :
    later.Sound ∧ scene.world.store.Ages later.world.store := by
  obtain ⟨environment?, henvironment⟩ := h.environment
  cases hstep with
  | proceed hworld =>
    obtain ⟨environment?', hafter, hchange⟩ := hworld.hasEnvironment h.conducted henvironment
    have hages := henvironment.ages hafter hchange
    refine ⟨⟨hworld.conducted h.conducted, hworld.holdsObjects h.objects, ⟨_, hafter⟩, ?_⟩, hages⟩
    exact fun attempt hattempt => (h.attempts attempt hattempt).age hages
  | begin ops hops =>
    refine ⟨⟨h.conducted, h.objects, h.environment, ?_⟩, ages_refl _⟩
    intro attempt hattempt
    rcases List.mem_append.mp hattempt with hattempt | hattempt
    · exact h.attempts attempt hattempt
    · rw [List.mem_singleton.mp hattempt]
      exact .start hops _
  | exchange hattempt hrest hanswer =>
    have hsound := h.attempts _ (List.mem_of_getElem? hattempt)
    have hafter := hsound.hasEnvironment hrest hanswer henvironment
    have hages := henvironment.ages hafter (.same _)
    refine ⟨⟨h.conducted, hanswer.holdsObjects h.objects, ⟨_, hafter⟩, ?_⟩, hages⟩
    intro other hother
    rcases List.mem_or_eq_of_mem_set hother with hother | rfl
    · exact (h.attempts other hother).age hages
    · exact hsound.advance hrest hanswer henvironment h.objects

theorem Sound.run (h : scene.Sound) (hrun : scene.Run later) :
    later.Sound ∧ scene.world.store.Ages later.world.store := by
  induction hrun with
  | refl => exact ⟨h, ages_refl _⟩
  | tail _ hlast ih =>
    obtain ⟨hmiddle, hages⟩ := ih
    obtain ⟨hlater, haged⟩ := hmiddle.step hlast
    exact ⟨hlater, hages.trans haged⟩

theorem Reachable.sound (h : scene.Reachable) : scene.Sound :=
  (sound_initial.run h).1

/-! ## Scenes that can be computed -/

theorem Reachable.run (h : scene.Reachable) (hrun : scene.Run later) : later.Reachable :=
  Relation.ReflTransGen.trans h hrun

/-- Whatever the controllers can do they can do in a scene. -/
theorem run_of_world {world later : World} {events : List Event}
    (h : ControlPlane.Run world events later) (attempts : List Attempt) :
    Run ⟨world, attempts⟩ ⟨later, attempts⟩ := by
  induction h with
  | nil => exact .refl
  | snoc _ hlast ih => exact ih.tail (.proceed hlast)

/-- A batch may go on without interference to where it pauses. -/
theorem Run.converse (pauses : Call → Bool) {index : Nat} {ops : List Op}
    {rest : Session (Except Error Unit)} {moments : List Moment} (past : History)
    (hattempt : scene.attempts[index]? = some ⟨ops, moments, rest⟩) :
    ∃ moments', scene.Run
      { world :=
          { scene.world with store := (rest.converse none pauses scene.world.store past).2.1 }
        attempts := scene.attempts.set index
          ⟨ops, moments', (rest.converse none pauses scene.world.store past).1⟩ } := by
  induction rest generalizing scene moments past with
  | done result =>
    obtain ⟨hindex, hget⟩ := List.getElem?_eq_some_iff.mp hattempt
    refine ⟨moments, ?_⟩
    rw [Session.converse, ← hget, List.set_getElem_self]
  | ask call next ih =>
    obtain ⟨hindex, hget⟩ := List.getElem?_eq_some_iff.mp hattempt
    rw [Session.converse]
    split
    · refine ⟨moments, ?_⟩
      rw [← hget, List.set_getElem_self]
    · let answer := (scene.world.store.reply none call).1
      let after := (scene.world.store.reply none call).2
      let moment : Moment := ⟨scene.world.store, ⟨call, answer⟩, after⟩
      let middle : Scene :=
        { world := { scene.world with store := after }
          attempts := scene.attempts.set index ⟨ops, moments ++ [moment], next answer⟩ }
      have hstep : scene.Step middle :=
        .exchange hattempt rfl (scene.world.store.answers_reply none call)
      have hself : middle.attempts[index]? = some ⟨ops, moments ++ [moment], next answer⟩ :=
        List.getElem?_set_self hindex
      obtain ⟨moments', hrun⟩ := ih answer (past ++ [⟨call, answer⟩]) hself
      rw [List.set_set] at hrun
      exact ⟨moments', .head hstep hrun⟩

section Alone

variable {world : World} {ops : List Op} {result : Except Error Unit}

/-- A batch may be committed without interference up to where it pauses. -/
theorem exists_attempt (h : ControlPlane.Reachable world)
    (hops : ∀ op ∈ ops, op.collection ≠ Layout.environments) (pauses : Call → Bool) :
    ∃ moments, Reachable
      { world := { world with store := ((commit ops).run.converse none pauses world.store []).2.1 }
        attempts :=
          [⟨ops, moments, ((commit ops).run.converse none pauses world.store []).1⟩] } := by
  obtain ⟨events, hrun⟩ := h
  have hbegin : Step ⟨world, []⟩ ⟨world, [.start ops]⟩ := .begin ops hops
  have hattempt : (⟨world, [.start ops]⟩ : Scene).attempts[0]? = some (.start ops) := rfl
  obtain ⟨moments, hattempted⟩ := Run.converse pauses [] hattempt
  have hstart : Reachable ⟨world, []⟩ := run_of_world hrun []
  exact ⟨moments, hstart.run (.head hbegin hattempted)⟩

/-- What a batch ends in without interference it may end in. -/
theorem exists_done (h : ControlPlane.Reachable world)
    (hops : ∀ op ∈ ops, op.collection ≠ Layout.environments)
    (hends : ((commit ops).run.converse none (fun _ => false) world.store []).1.endsWith
      (fun found => found = result) = true) :
    ∃ (scene : Scene) (attempt : Attempt), scene.Reachable ∧ attempt ∈ scene.attempts ∧
      attempt.ops = ops ∧ attempt.rest = .done result := by
  obtain ⟨moments, hreachable⟩ := exists_attempt h hops fun _ => false
  obtain ⟨_, hrest, hfound⟩ := Session.exists_of_endsWith hends
  obtain rfl := of_decide_eq_true hfound
  exact ⟨_, _, hreachable, List.mem_singleton_self _, rfl, hrest⟩

/-- What a batch ends in that is overtaken by a task while it pauses it may end in. -/
theorem exists_done_of_overtaken (h : ControlPlane.Reachable world)
    (hops : ∀ op ∈ ops, op.collection ≠ Layout.environments) (pauses : Call → Bool) {task : Task}
    (hpermits : world.Permits task)
    (hends :
      let paused := (commit ops).run.converse none pauses world.store []
      let later := World.perform { world with store := paused.2.1 } none task
      (paused.1.converse none (fun _ => false) later.store paused.2.2).1.endsWith
        (fun found => found = result) = true) :
    ∃ (scene : Scene) (attempt : Attempt), scene.Reachable ∧ attempt ∈ scene.attempts ∧
      attempt.ops = ops ∧ attempt.rest = .done result := by
  obtain ⟨earlier, hpaused⟩ := exists_attempt h hops pauses
  generalize (commit ops).run.converse none pauses world.store [] = paused at hpaused hends
  have hpermits : World.Permits { world with store := paused.2.1 } task := by
    cases task with
    | establish quorum uuid constraints => trivial
    | request controller asked => exact hpermits
  obtain ⟨events, htask⟩ := ControlPlane.Run.carry task none (fun _ => false) hpermits
  have hlater := hpaused.run (run_of_world htask _)
  let later : Scene :=
    ⟨World.perform { world with store := paused.2.1 } none task, [⟨ops, earlier, paused.1⟩]⟩
  have hattempt : later.attempts[0]? = some ⟨ops, earlier, paused.1⟩ := rfl
  obtain ⟨moments, hresume⟩ := Run.converse (fun _ => false) paused.2.2 hattempt
  obtain ⟨_, hrest, hfound⟩ := Session.exists_of_endsWith hends
  obtain rfl := of_decide_eq_true hfound
  exact ⟨_, _, hlater.run hresume, List.mem_singleton_self _, rfl, hrest⟩

end Alone

end Scene

end ControlPlane
