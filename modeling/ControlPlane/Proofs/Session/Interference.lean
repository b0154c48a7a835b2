import ControlPlane.Proofs.Session.Preparation
import ControlPlane.Store.Basic

/-!
# Sessions among other writers

A session may be answered by a store that others write to between any two of
its calls, and any of its calls may fail.  So nothing is known of the store
that a call finds; what is known is what the call itself does to it.  A
transaction that fails has applied nothing.
-/

namespace ControlPlane

open Json Store

/-- How a store that may fail answers a call, with the store afterwards.  An increment that fails
may have counted all the same. -/
def Store.Serves (store : Store) : (call : Call) → call.Answer → Store → Prop
  | .get collection id, answer, after =>
    (answer = .ok (store.get? collection id) ∨ ∃ failure, answer = .error failure) ∧ after = store
  | .increment collection id field, answer, after =>
    (answer, after) = store.increment collection id field ∨
      (∃ failure, answer = .error failure) ∧
        (after = store ∨ after = (store.increment collection id field).2)
  | .transact ops, answer, after =>
    answer = .ok () ∧ store.transact ops = .ok after ∨
      (∃ failure, answer = .error failure) ∧ after = store
  | .prechecker, _, after => after = store
  | .precheck _ _, _, after => after = store

/-- An exchange, with the store that the call found and the one that it left. -/
structure Moment where
  before : Store
  exchange : Exchange
  after : Store

namespace Moment

/-- The call left the store as it was. -/
def Idle (moment : Moment) : Prop :=
  moment.after = moment.before

/-- The call added one to a counter. -/
def Counts (moment : Moment) : Prop :=
  ∃ counter, moment.exchange.call = .increment Layout.sequence counter "counter" ∧
    moment.after = (moment.before.increment Layout.sequence counter "counter").2

/-- The call applied all operations of a transaction. -/
def Applies (moment : Moment) (ops : List Op) : Prop :=
  moment.exchange = ⟨.transact ops, .ok ()⟩ ∧ moment.before.transact ops = .ok moment.after

end Moment

/-- The exchanges of moments. -/
abbrev exchanges (moments : List Moment) : History :=
  moments.map (·.exchange)

/-- A session goes through moments among other writers, and goes on with what is left of it. -/
inductive Session.Converses {α : Type} : Session α → List Moment → Session α → Prop where
  | nil (session : Session α) : Converses session [] session
  | cons {call : Call} {next : call.Answer → Session α} {answer : call.Answer}
      {before after : Store} {moments : List Moment} {rest : Session α}
      (hserves : before.Serves call answer after) (hnext : (next answer).Converses moments rest) :
      Converses (.ask call next) (⟨before, ⟨call, answer⟩, after⟩ :: moments) rest

namespace Session.Converses

variable {α : Type} {session rest : Session α} {moments : List Moment}
  {allowed : History → Call → Prop} {post : History → α → Prop} {past : History}

theorem serves (h : session.Converses moments rest) :
    ∀ moment ∈ moments,
      moment.before.Serves moment.exchange.call moment.exchange.answer moment.after := by
  induction h with
  | nil _ => exact List.forall_mem_nil _
  | cons hserves _ ih => exact List.forall_mem_cons.mpr ⟨hserves, ih⟩

/-- What is left of a session that conforms does so too. -/
theorem conforms (h : session.Converses moments rest)
    (hconforms : session.Conforms allowed post past) :
    rest.Conforms allowed post (past ++ exchanges moments) := by
  induction h generalizing past with
  | nil _ => simpa using hconforms
  | @cons call _ answer _ _ _ _ _ _ ih =>
    have hlater := ih (hconforms.2 answer)
    rwa [List.append_assoc] at hlater

/-- Every call that has been made was allowed after what came before it. -/
theorem call_allowed {earlier later : List Moment} {moment : Moment}
    (h : session.Converses (earlier ++ moment :: later) rest)
    (hconforms : session.Conforms allowed post past) :
    allowed (past ++ exchanges earlier) moment.exchange.call := by
  induction earlier generalizing session past with
  | nil =>
    cases h
    rw [exchanges, List.map_nil, List.append_nil]
    exact hconforms.1
  | cons first earlier ih =>
    cases h with
    | cons _ hnext =>
      have hallowed := ih hnext (hconforms.2 _)
      rwa [List.append_assoc] at hallowed

/-- A property of histories that every allowed call keeps holds all along. -/
theorem keeps (property : History → Prop) (h : session.Converses moments rest)
    (hconforms : session.Conforms allowed post past) (hpast : property past)
    (hstep : ∀ later call answer, property later → allowed later call →
      property (later ++ [⟨call, answer⟩])) : property (past ++ exchanges moments) := by
  induction h generalizing past with
  | nil _ => simpa using hpast
  | @cons call _ answer _ _ _ _ _ _ ih =>
    have hlater := ih (hconforms.2 answer) (hstep past call answer hpast hconforms.1)
    rwa [List.append_assoc] at hlater

end Session.Converses

namespace Moment

variable {moment : Moment}

/-- A call that prepares writes nothing but a counter. -/
theorem idle_or_counts_of_preparatory
    (h : moment.before.Serves moment.exchange.call moment.exchange.answer moment.after)
    (hprepares : moment.exchange.call.Preparatory) : moment.Idle ∨ moment.Counts := by
  obtain ⟨before, ⟨call, answer⟩, after⟩ := moment
  cases call with
  | get collection id => exact .inl h.2
  | increment collection id field =>
    obtain ⟨rfl, rfl⟩ := hprepares
    rcases h with hcount | ⟨-, hidle | hcount⟩
    · exact .inr ⟨id, rfl, congrArg Prod.snd hcount⟩
    · exact .inl hidle
    · exact .inr ⟨id, rfl, hcount⟩
  | transact ops => cases hprepares
  | prechecker => exact .inl h
  | precheck series constraints => exact .inl h

theorem idle_of_get {collection id : String}
    (h : moment.before.Serves moment.exchange.call moment.exchange.answer moment.after)
    (hget : moment.exchange.call = .get collection id) : moment.Idle := by
  obtain ⟨before, ⟨call, answer⟩, after⟩ := moment
  obtain rfl : call = .get collection id := hget
  exact h.2

/-- A transaction is applied as a whole or not at all. -/
theorem applies_or_idle {ops : List Op} {answer : Except StoreError Unit}
    (h : moment.before.Serves moment.exchange.call moment.exchange.answer moment.after)
    (hsubmission : moment.exchange.submission? = some (ops, answer)) :
    moment.Applies ops ∧ answer = .ok () ∨
      moment.Idle ∧ ∃ failure, answer = .error failure := by
  obtain ⟨before, ⟨call, given⟩, after⟩ := moment
  cases call with
  | transact submitted =>
    obtain ⟨rfl, rfl⟩ := Prod.mk.inj (Option.some.inj hsubmission)
    rcases h with ⟨rfl, hcommit⟩ | ⟨⟨failure, rfl⟩, hidle⟩
    · exact .inl ⟨⟨rfl, hcommit⟩, rfl⟩
    · exact .inr ⟨hidle, failure, rfl⟩
  | _ => cases hsubmission

end Moment

/-- A session that has ended with a transaction that took place has applied it last. -/
theorem Session.Converses.exists_last {α : Type} {session rest : Session α}
    {moments : List Moment} {asked : History} {ops : List Op}
    (h : session.Converses moments rest)
    (hpast : exchanges moments = asked ++ [⟨.transact ops, .ok ()⟩]) :
    ∃ earlier moment, moments = earlier ++ [moment] ∧ exchanges earlier = asked ∧
      moment.Applies ops := by
  obtain ⟨earlier, last, rfl, hearlier, hlast⟩ := List.map_eq_append_iff.mp hpast
  obtain ⟨moment, rfl, hexchange⟩ := List.map_eq_singleton_iff.mp hlast
  refine ⟨earlier, moment, rfl, hearlier, ?_⟩
  rcases Moment.applies_or_idle (h.serves moment (by simp))
    (congrArg Exchange.submission? hexchange) with ⟨happlies, -⟩ | ⟨-, failure, hfailure⟩
  · exact happlies
  · cases hfailure

end ControlPlane
