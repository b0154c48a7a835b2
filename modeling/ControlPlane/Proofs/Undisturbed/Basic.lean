import ControlPlane.Environment
import ControlPlane.Execution

/-!
# Procedures that nothing disturbs

Where nobody else works on the store and none of its calls fails, a procedure
is a function of the store and of the policy.  The policy may answer whatever
it likes: it has a memory, and what it answers may depend on all that it has
been asked.  A procedure that leaves every memory as it is has not asked.
-/

namespace ControlPlane

open Json

/-- A policy that may answer anything, and may remember what it has been asked. -/
structure Advisor (μ : Type) where
  prechecker : μ → Except Causes Bool × μ
  precheck : String → Constraints → μ → Except Causes Unit × μ

namespace Advisor

variable {μ α β : Type} (advisor : Advisor μ) {procedure : Procedure α} {next : α → Procedure β}
  {state state' : Store × μ} {result : α} {error : Error}

/-- Answers one call: the store as it is, and the policy from its memory. -/
def answer : (call : Call) → Store × μ → call.Answer × Store × μ
  | .get collection id, (store, memory) => (.ok (store.get? collection id), store, memory)
  | .increment collection id field, (store, memory) =>
    let (answer, after) := store.increment collection id field
    (answer, after, memory)
  | .transact ops, (store, memory) =>
    match store.transact ops with
    | .ok after => (.ok (), after, memory)
    | .error failure => (.error failure, store, memory)
  | .prechecker, (store, memory) =>
    let (answer, memory) := advisor.prechecker memory
    (answer, store, memory)
  | .precheck series constraints, (store, memory) =>
    let (answer, memory) := advisor.precheck series constraints memory
    (answer, store, memory)

/-- What a procedure results in, with the store and the memory afterwards. -/
def perform (procedure : Procedure α) (state : Store × μ) : Except Error α × Store × μ :=
  procedure.run.run advisor.answer state

/-- A policy as an advisor that remembers what its prechecker has been asked. -/
def ofPolicy (policy : Option Policy) : Advisor (List (String × Constraints)) where
  prechecker memory := ((policy.map (·.hasPrechecker)).getD (.ok false), memory)
  precheck series constraints memory :=
    ((policy.map (·.verdict series constraints)).getD (.ok ()), memory ++ [(series, constraints)])

/-- A policy that refuses the machines of one series. -/
def choosy : Advisor (List (String × Constraints)) :=
  ofPolicy (some (.refusing [("focal", ["no", "such", "image"])]))

/-- To perform a procedure is to execute it on a store without rivals and faults. -/
theorem execute_eq (policy : Option Policy) (procedure : Procedure α) (store : Store)
    (prechecks : List (String × Constraints)) :
    Surroundings.execute policy procedure { shared := { store }, prechecks } =
      let (result, after, memory) := (ofPolicy policy).perform procedure (store, prechecks)
      (result, { shared := { store := after }, prechecks := memory }) := by
  unfold Surroundings.execute perform
  generalize procedure.run = session
  induction session generalizing store prechecks with
  | done result => rfl
  | ask call next ih =>
    cases call with
    | transact ops =>
      simp only [Session.run, Surroundings.answer, SharedStore.transact, SharedStore.trip,
        SharedStore.commitOwn, answer]
      cases store.transact ops with
      | ok after => exact ih _ after prechecks
      | error failure => exact ih _ store prechecks
    | prechecker => cases policy <;> exact ih _ store prechecks
    | precheck series constraints => cases policy <;> exact ih _ store _
    | _ => exact ih _ _ prechecks

/-! ## Procedures step by step -/

@[simp] theorem perform_pure : advisor.perform (pure result) state = (.ok result, state) := rfl

@[simp] theorem perform_lift (result : Except Error α) :
    advisor.perform (liftM result : Procedure α) state = (result, state) := by
  cases result <;> rfl

variable {advisor}

theorem perform_bind_ok (h : advisor.perform procedure state = (.ok result, state')) :
    advisor.perform (procedure >>= next) state = advisor.perform (next result) state' := by
  unfold perform at h ⊢
  rw [ExceptT.run_bind]
  change (Session.bind _ _).run _ _ = _
  rw [Session.run_bind, h]

theorem perform_bind_error (h : advisor.perform procedure state = (.error error, state')) :
    advisor.perform (procedure >>= next) state = (.error error, state') := by
  unfold perform at h ⊢
  rw [ExceptT.run_bind]
  change (Session.bind _ _).run _ _ = _
  rw [Session.run_bind, h]
  rfl

theorem perform_map_ok {f : α → β} (h : advisor.perform procedure state = (.ok result, state')) :
    advisor.perform (f <$> procedure) state = (.ok (f result), state') := by
  rw [map_eq_pure_bind, perform_bind_ok h, perform_pure]

/-- Context changes nothing but the error. -/
theorem perform_inContext (context : String) (procedure : Procedure α) (state : Store × μ) :
    advisor.perform (Procedure.inContext context procedure) state =
      ((advisor.perform procedure state).1.mapError (·.inContext context),
        (advisor.perform procedure state).2) := by
  unfold perform Procedure.inContext
  change (Session.bind _ _).run _ _ = _
  rw [Session.run_bind]
  cases (procedure.run.run advisor.answer state).1 <;> rfl

/-- The error of a procedure that is attempted is its result. -/
theorem perform_attempt (procedure : Procedure α) (state : Store × μ) :
    advisor.perform (Procedure.attempt procedure) state =
      (.ok (advisor.perform procedure state).1, (advisor.perform procedure state).2) := by
  unfold perform Procedure.attempt
  change (Session.bind _ _).run _ _ = _
  rw [Session.run_bind]
  rfl

theorem perform_ask (call : Call) :
    advisor.perform (Procedure.ask call) state =
      (.ok (advisor.answer call state).1, (advisor.answer call state).2) := rfl

end Advisor

end ControlPlane
