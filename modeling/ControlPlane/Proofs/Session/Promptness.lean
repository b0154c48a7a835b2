import ControlPlane.Proofs.Session.Composition
import ControlPlane.Proofs.Session.Interference

/-!
# Procedures that end with the first failure

A procedure is prompt if it makes no call after one that has failed, and ends
in the error of that failure with nothing but context put before it.  Only a
transaction may fail without ending the procedure: what its failure means has
to be found out.
-/

namespace ControlPlane

open Json Store

/-- An error is another one with context put before its message, any number of times. -/
inductive Error.Wraps (cause : Error) : Error → Prop where
  | self : Wraps cause cause
  | inContext {error : Error} (h : Wraps cause error) (context : String) :
      Wraps cause (error.inContext context)

namespace Error.Wraps

variable {cause error : Error}

/-- Context is put before internal messages only. -/
theorem eq_of_isPlain (h : cause.Wraps error) (hplain : error.isPlain = true) :
    cause = error := by
  induction h with
  | self => rfl
  | @inContext middle _ context ih =>
    cases middle with
    | transactionAborted _ => cases hplain
    | internalError _ => cases hplain
    | serviceUnavailable _ => cases hplain
    | _ => exact ih hplain

/-- Whatever is put before the message of an unavailable store, its end stays as it was. -/
theorem exists_append {message : String} (h : (serviceUnavailable message).Wraps error) :
    ∃ text, error = .serviceUnavailable (text ++ message) := by
  induction h with
  | self => exact ⟨"", by rw [String.empty_append]⟩
  | inContext _ context ih =>
    obtain ⟨text, rfl⟩ := ih
    exact ⟨context ++ ": " ++ text, congrArg serviceUnavailable (String.append_assoc ..).symm⟩

end Error.Wraps

/-- The error that a failed call stands for, unless it is a transaction. -/
def Exchange.blame? : Exchange → Option Error
  | ⟨.get _ _, .error failure⟩ => some failure.toError
  | ⟨.increment _ _ _, .error failure⟩ => some failure.toError
  | ⟨.prechecker, .error causes⟩ =>
    some (.internalError ("cannot get prechecker: " ++ Causes.render causes))
  | ⟨.precheck _ _, .error causes⟩ => some (.provisioningRejected (Causes.render causes))
  | _ => none

/-- That a record is missing is never the failure of a call. -/
theorem Exchange.blame?_ne_objectNotFound (exchange : Exchange) (type : ResourceType)
    (lookup : Lookup) : exchange.blame? ≠ some (.objectNotFound type lookup) := by
  have hfailure : ∀ failure : StoreError, failure.toError ≠ .objectNotFound type lookup := by
    intro failure
    cases failure <;> nofun
  obtain ⟨call, answer⟩ := exchange
  intro h
  cases call with
  | transact ops => cases h
  | prechecker => cases answer <;> cases h
  | precheck series constraints => cases answer <;> cases h
  | _ =>
    cases answer with
    | ok _ => cases h
    | error failure => exact hfailure failure (Option.some.inj h)

namespace Session

variable {α β : Type}

/-- A session has ended in an error that another one is the cause of. -/
def FailsWith (cause : Error) (session : Session (Except Error α)) : Prop :=
  ∃ error, session = .done (.error error) ∧ cause.Wraps error

/-- A session ends with the first call that fails, apart from transactions. -/
def Prompt : Session (Except Error α) → Prop
  | done _ => True
  | ask call next => ∀ answer, (next answer).Prompt ∧
      ∀ cause, Exchange.blame? ⟨call, answer⟩ = some cause → (next answer).FailsWith cause

/-- What follows a prompt session is prompt too, and leaves the error of a failed call as it is or
puts context before it. -/
theorem Prompt.bind {session : Session (Except Error α)}
    {next : Except Error α → Session (Except Error β)} (h : session.Prompt)
    (hnext : ∀ result, (next result).Prompt)
    (herror : ∀ (exchange : Exchange) (cause error : Error), exchange.blame? = some cause →
      cause.Wraps error → (next (.error error)).FailsWith cause) :
    (session.bind next).Prompt := by
  induction session with
  | done result => exact hnext result
  | ask call rest ih =>
    intro answer
    refine ⟨ih answer (h answer).1, fun cause hcause => ?_⟩
    obtain ⟨error, hrest, hwraps⟩ := (h answer).2 cause hcause
    change FailsWith cause ((rest answer).bind next)
    rw [hrest]
    exact herror _ cause error hcause hwraps

/-- A call of a prompt session that fails is the last one, and the session ends in its error. -/
theorem Converses.last_of_blame {session rest : Session (Except Error α)} {moments : List Moment}
    {moment : Moment} {cause : Error} (h : session.Converses moments rest)
    (hprompt : session.Prompt) (hmem : moment ∈ moments)
    (hcause : moment.exchange.blame? = some cause) :
    (∃ earlier, moments = earlier ++ [moment]) ∧ rest.FailsWith cause := by
  induction h with
  | nil _ => cases hmem
  | @cons call next answer before after later rest hserves hnext ih =>
    obtain ⟨hprompt, hfails⟩ := hprompt answer
    rcases List.mem_cons.mp hmem with rfl | hmem
    · obtain ⟨error, hdone, hwraps⟩ := hfails cause hcause
      rw [hdone] at hnext
      cases hnext
      exact ⟨⟨[], rfl⟩, error, rfl, hwraps⟩
    · obtain ⟨⟨earlier, rfl⟩, hrest⟩ := ih hprompt hmem
      exact ⟨⟨_ :: earlier, rfl⟩, hrest⟩

end Session

namespace Procedure

variable {α β : Type}

/-- A procedure ends with the first call that fails, apart from transactions. -/
def Prompt (procedure : Procedure α) : Prop :=
  procedure.run.Prompt

theorem prompt_closed : Closed Prompt where
  pure _ := trivial
  throw _ := trivial
  bind h hnext := by
    apply Session.Prompt.bind h
    · intro result
      cases result with
      | ok a => exact hnext a
      | error error => trivial
    · intro exchange cause error _ hwraps
      exact ⟨error, rfl, hwraps⟩
  inContext h context := by
    apply Session.Prompt.bind h
    · intro result
      cases result <;> trivial
    · intro exchange cause error _ hwraps
      exact ⟨error.inContext context, rfl, hwraps.inContext context⟩

/-- The error of a procedure may be looked at and made up for, unless a failed call is the cause
of it. -/
theorem Prompt.attempt {procedure : Procedure α} {next : Except Error α → Procedure β}
    (h : procedure.Prompt) (hnext : ∀ result, (next result).Prompt)
    (herror : ∀ (exchange : Exchange) (cause error : Error), exchange.blame? = some cause →
      cause.Wraps error → (next (.error error)).run.FailsWith cause) :
    (attempt procedure >>= next).Prompt := by
  rw [Prompt, Procedure.attempt, ExceptT.run_bind_lift]
  exact Session.Prompt.bind h hnext herror

/-- The store is asked for a document, and its failure is an error. -/
theorem prompt_get (collection id : String) :
    (ask (.get collection id) >>= answered).Prompt := by
  intro answer
  cases answer with
  | ok document? => exact ⟨trivial, nofun⟩
  | error failure =>
    refine ⟨trivial, ?_⟩
    rintro cause ⟨⟩
    exact ⟨failure.toError, rfl, .self⟩

theorem prompt_nextNumber (counter : String) : (nextNumber counter).Prompt := by
  apply prompt_closed.inContext
  intro answer
  cases answer with
  | ok number => exact ⟨trivial, nofun⟩
  | error failure =>
    refine ⟨trivial, ?_⟩
    rintro cause ⟨⟩
    exact ⟨failure.toError, rfl, .self⟩

theorem prompt_precheck (series : String) (constraints : Constraints) :
    (precheck series constraints).Prompt := by
  intro answer
  cases answer with
  | error causes =>
    refine ⟨trivial, ?_⟩
    rintro cause ⟨⟩
    exact ⟨_, rfl, .self⟩
  | ok hasPrechecker =>
    refine ⟨?_, nofun⟩
    cases hasPrechecker with
    | false => exact trivial
    | true =>
      intro verdict
      cases verdict with
      | ok _ => exact ⟨trivial, nofun⟩
      | error causes =>
        refine ⟨trivial, ?_⟩
        rintro cause ⟨⟩
        exact ⟨_, rfl, .self⟩

/-- A transaction has no error that the procedure has to end in. -/
theorem Prompt.transact {ops : List Op} {next : Except StoreError Unit → Procedure α}
    (h : ∀ answer, (next answer).Prompt) : (ask (.transact ops) >>= next).Prompt :=
  fun answer => ⟨h answer, nofun⟩

end Procedure

end ControlPlane
