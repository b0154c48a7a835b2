import ControlPlane.Environment
import ControlPlane.Machine.Status
import ControlPlane.Proofs.Session.Outcome
import ControlPlane.StateServers

/-!
# Why a request ends in an error

An error either speaks of the request and of what was found, or of something
that should not have happened: the store has failed, a document is not what it
was taken for, or the policy has no answer.  Errors of the second sort are
explained by an exchange that the request has had.  So there are no internal
errors where all answers of the store are sound and the policy answers.
-/

namespace ControlPlane

open Json

namespace Error

/-- The error speaks of the request and of what was found. -/
def isPlain : Error → Bool
  | transactionAborted _ => false
  | internalError _ => false
  | serviceUnavailable _ => false
  | _ => true

/-- The error stands for something that should not have happened. -/
def isInternal : Error → Bool
  | internalError _ => true
  | _ => false

@[simp] theorem isInternal_inContext (context : String) (error : Error) :
    (error.inContext context).isInternal = error.isInternal := by
  cases error <;> rfl

theorem isInternal_of_isPlain {error : Error} (h : error.isPlain = true) :
    error.isInternal = false := by
  cases error with
  | internalError _ => cases h
  | _ => rfl

end Error

namespace StoreError

/-- The store reports an operation that does not fit its document. -/
def isInvalid : StoreError → Bool
  | invalidOp _ _ _ _ => true
  | _ => false

@[simp] theorem isInternal_toError (failure : StoreError) :
    failure.toError.isInternal = failure.isInvalid := by
  cases failure <;> rfl

end StoreError

namespace ResourceType

/-- The collection of the records of a kind. -/
def collection : ResourceType → String
  | environment => Layout.environments
  | machine => Layout.machines
  | containerRef => Layout.containerRefs
  | constraints => Layout.constraints
  | status => Layout.statuses
  | instanceData => Layout.instanceData
  | stateServerInfo => Layout.stateServers
  | sequence => Layout.sequence

theorem collection_injective {type type' : ResourceType}
    (h : type.collection = type'.collection) : type = type' := by
  have hall : ∀ type ∈ Keyword.all (α := ResourceType), ∀ type' ∈ Keyword.all (α := ResourceType),
      type.collection = type'.collection → type = type' := by decide
  exact hall type (Keyword.mem_all type) type' (Keyword.mem_all type') h

/-- A document is read as a record of a kind, or as a counter with an unsigned integer. -/
def IsReadAs (document : Value) : ResourceType → Prop
  | environment => ∃ environment, Environment.decode document = .ok environment
  | machine => ∃ machine, Machine.decode document = .ok machine
  | containerRef => ∃ ref, ContainerRef.decode document = .ok ref
  | constraints => ∃ constraints, Constraints.decode document = .ok constraints
  | status => ∃ record, StatusRecord.decode document = .ok record
  | instanceData => ∃ data, InstanceData.decode document = .ok data
  | stateServerInfo => ∃ record, StateServersRecord.decode document = .ok record
  | sequence => ∃ number : Nat, document.field "counter" = .natural number

end ResourceType

/-- The failure of the store in an exchange. -/
def Exchange.failure? : Exchange → Option StoreError
  | ⟨.get _ _, .error failure⟩ => some failure
  | ⟨.increment _ _ _, .error failure⟩ => some failure
  | ⟨.transact _, .error failure⟩ => some failure
  | _ => none

/-- The store has not found an operation that does not fit, and has given out no document that is
not of the kind of its collection. -/
structure Exchange.Sound (exchange : Exchange) : Prop where
  valid : ∀ failure, exchange.failure? = some failure → failure.isInvalid = false
  readable : ∀ (type : ResourceType) (id : String) (document : Value),
    exchange = ⟨.get type.collection id, .ok (some document)⟩ → type.IsReadAs document

/-- What has been asked explains an error. -/
inductive History.Explains (past : History) : Error → Prop where
  | plain {error : Error} (h : error.isPlain = true) : Explains past error
  | failure {exchange : Exchange} {failure : StoreError} (hmem : exchange ∈ past)
      (hfailure : exchange.failure? = some failure) : Explains past failure.toError
  | unreadable {type : ResourceType} {id : String} {document : Value}
      (hmem : ⟨.get type.collection id, .ok (some document)⟩ ∈ past)
      (hread : ¬type.IsReadAs document) (message : String) : Explains past (.internalError message)
  | prechecker {causes : Causes} (hmem : ⟨.prechecker, .error causes⟩ ∈ past) (message : String) :
      Explains past (.internalError message)
  | inContext {error : Error} (h : Explains past error) (context : String) :
      Explains past (error.inContext context)

namespace History.Explains

variable {past later : History} {error : Error}

theorem mono (h : past.Explains error) (hextend : past <+: later) : later.Explains error := by
  induction h with
  | plain h => exact .plain h
  | failure hmem hfailure => exact .failure (hextend.subset hmem) hfailure
  | unreadable hmem hread message => exact .unreadable (hextend.subset hmem) hread message
  | prechecker hmem message => exact .prechecker (hextend.subset hmem) message
  | inContext _ context ih => exact ih.inContext context

/-- Where the store's answers are sound, only a policy without an answer explains an internal
error. -/
theorem exists_prechecker (h : past.Explains error) (hsound : ∀ exchange ∈ past, exchange.Sound)
    (hinternal : error.isInternal = true) :
    ∃ causes, (⟨.prechecker, .error causes⟩ : Exchange) ∈ past := by
  induction h with
  | plain h =>
    rw [Error.isInternal_of_isPlain h] at hinternal
    cases hinternal
  | failure hmem hfailure =>
    rw [StoreError.isInternal_toError, (hsound _ hmem).valid _ hfailure] at hinternal
    cases hinternal
  | unreadable hmem hread message => exact absurd ((hsound _ hmem).readable _ _ _ rfl) hread
  | prechecker hmem message => exact ⟨_, hmem⟩
  | inContext _ context ih => exact ih ((Error.isInternal_inContext context _).symm.trans hinternal)

end History.Explains

end ControlPlane
