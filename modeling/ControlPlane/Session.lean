import ControlPlane.Constraints.Basic
import ControlPlane.Store.Error

/-!
# Sessions

A session is a request of the control plane as a tree: at each node it either has its result or
makes one call on the world outside and goes on with the answer. What the answers are is left
open, so the same session can be run against a store of its own, against a store that others
change between any two calls, or against one that fails.
-/

namespace ControlPlane

/-- A call on the world outside: one atomic step of the store, or a question to the policy. -/
inductive Call where
  | get (collection id : String)
  | increment (collection id field : String)
  | transact (ops : List Store.Op)
  | prechecker
  | precheck (series : String) (constraints : Constraints)

/-- A chain of causes, the outermost one first. -/
abbrev Causes := List String

/-- What a call is answered with. The policy says whether it has a prechecker, and the prechecker
says whether an instance could be provisioned. -/
abbrev Call.Answer : Call → Type
  | get _ _ => Except StoreError (Option Json.Value)
  | increment _ _ _ => Except StoreError Nat
  | transact _ => Except StoreError Unit
  | prechecker => Except Causes Bool
  | precheck _ _ => Except Causes Unit

/-- A request that makes calls one after the other. -/
inductive Session (α : Type) : Type where
  | done (result : α)
  | ask (call : Call) (next : call.Answer → Session α)

namespace Session

variable {α β σ : Type}

/-- Goes on with another session where one has its result. -/
def bind : Session α → (α → Session β) → Session β
  | done result, next => next result
  | ask call later, next => ask call fun answer => (later answer).bind next

instance : Monad Session where
  pure := done
  bind := bind

/-- Makes one call. -/
def call (call : Call) : Session call.Answer :=
  ask call done

/-- Runs a session where every call is answered by a step on a state. -/
def run (step : (call : Call) → σ → call.Answer × σ) : Session α → σ → α × σ
  | done result, state => (result, state)
  | ask call next, state =>
    let (answer, state) := step call state
    (next answer).run step state

theorem bind_done (session : Session α) : session.bind done = session := by
  induction session with
  | done result => rfl
  | ask call next ih => exact congrArg (ask call) (funext ih)

theorem bind_assoc {γ : Type} (session : Session α) (f : α → Session β) (g : β → Session γ) :
    (session.bind f).bind g = session.bind fun a => (f a).bind g := by
  induction session with
  | done result => rfl
  | ask call next ih => exact congrArg (ask call) (funext ih)

instance : LawfulMonad Session :=
  LawfulMonad.mk' Session bind_done (fun _ _ => rfl) bind_assoc

/-- A session that goes on with another one runs both on one state. -/
theorem run_bind (step : (call : Call) → σ → call.Answer × σ) (session : Session α)
    (next : α → Session β) (state : σ) :
    (session.bind next).run step state =
      (next (session.run step state).1).run step (session.run step state).2 := by
  induction session generalizing state with
  | done result => rfl
  | ask call later ih => exact ih _ _

end Session

end ControlPlane
