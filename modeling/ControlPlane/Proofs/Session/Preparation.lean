import ControlPlane.Layout
import ControlPlane.Proofs.Session.Explanation

/-!
# Preparing a transaction

Before it commits, a request reads records, draws numbers and asks the policy.
None of this submits a transaction, and none of it can lose a race: a store
that is asked for a document or a number has nothing to abort.  And if it fails
at all, what has been asked explains the error.  These facts do not depend on
what came before, so they hold of a procedure as soon as they hold of its
parts.
-/

namespace ControlPlane

open Json Store

namespace Error

/-- The error stands for a lost race. -/
def isAborted : Error → Bool
  | transactionAborted _ => true
  | _ => false

@[simp] theorem isAborted_inContext (context : String) (error : Error) :
    (error.inContext context).isAborted = error.isAborted := by
  cases error <;> rfl

theorem isAborted_of_isPlain {error : Error} (h : error.isPlain = true) :
    error.isAborted = false := by
  cases error with
  | transactionAborted _ => cases h
  | _ => rfl

end Error

namespace StoreError

/-- The store reports that it has aborted a transaction. -/
def isAborted : StoreError → Bool
  | aborted _ _ _ _ => true
  | _ => false

@[simp] theorem isAborted_toError (failure : StoreError) :
    failure.toError.isAborted = failure.isAborted := by
  cases failure <;> rfl

end StoreError

/-- The call makes no transaction, and writes nothing but a counter. -/
def Call.Preparatory : Call → Prop
  | .transact _ => False
  | .increment collection _ field => collection = Layout.sequence ∧ field = "counter"
  | _ => True

/-- The store reports a lost race where there was none to lose. -/
def Exchange.Spurious : Exchange → Prop
  | ⟨.get _ _, .error failure⟩ => failure.isAborted = true
  | ⟨.increment _ _ _, .error failure⟩ => failure.isAborted = true
  | _ => False

/-- The transaction of an exchange, with its answer. -/
def Exchange.submission? : Exchange → Option (List Op × Except StoreError Unit)
  | ⟨.transact ops, answer⟩ => some (ops, answer)
  | _ => none

namespace History

/-- The transactions that have been submitted, with their answers. -/
def submissions (past : History) : List (List Op × Except StoreError Unit) :=
  past.filterMap Exchange.submission?

theorem submissions_append (past later : History) :
    submissions (past ++ later) = past.submissions ++ later.submissions :=
  List.filterMap_append ..

theorem submissions_append_of_preparatory (past : History) {call : Call}
    (h : call.Preparatory) (answer : call.Answer) :
    submissions (past ++ [⟨call, answer⟩]) = past.submissions := by
  rw [submissions_append]
  cases call with
  | transact ops => cases h
  | _ => exact List.append_nil _

theorem submissions_append_transact (past : History) (ops : List Op)
    (answer : Except StoreError Unit) :
    submissions (past ++ [⟨.transact ops, answer⟩]) = past.submissions ++ [(ops, answer)] :=
  submissions_append ..

/-- One of the answers is a lost race that there was none to lose. -/
def Spurious (past : History) : Prop :=
  ∃ exchange ∈ past, exchange.Spurious

theorem Spurious.mono {past later : History} (h : past.Spurious) (hextend : past <+: later) :
    later.Spurious := by
  obtain ⟨exchange, hmem, hspurious⟩ := h
  exact ⟨exchange, hextend.subset hmem, hspurious⟩

end History

/-- The error of a preparation: what has been asked explains it, and it stands for no lost race. -/
structure Unprepared (past : History) (error : Error) : Prop where
  explained : past.Explains error
  spurious : error.isAborted = true → past.Spurious

theorem unprepared_of_isPlain {past : History} {error : Error} (h : error.isPlain = true) :
    Unprepared past error where
  explained := .plain h
  spurious haborted :=
    absurd ((Error.isAborted_of_isPlain h).symm.trans haborted) Bool.false_ne_true

theorem unprepared_of_failure {past : History} {exchange : Exchange} {failure : StoreError}
    (hmem : exchange ∈ past) (hfailure : exchange.failure? = some failure)
    (hprepares : exchange.call.Preparatory) : Unprepared past failure.toError where
  explained := .failure hmem hfailure
  spurious haborted := by
    refine ⟨exchange, hmem, ?_⟩
    rw [StoreError.isAborted_toError] at haborted
    obtain ⟨call, answer⟩ := exchange
    cases call with
    | get collection id =>
      cases answer with
      | ok document? => cases hfailure
      | error given =>
        obtain rfl := Option.some.inj hfailure
        exact haborted
    | increment collection id field =>
      cases answer with
      | ok number => cases hfailure
      | error given =>
        obtain rfl := Option.some.inj hfailure
        exact haborted
    | transact ops => cases hprepares
    | _ => cases hfailure

theorem Unprepared.inContext {past : History} {error : Error} (h : Unprepared past error)
    (context : String) : Unprepared past (error.inContext context) where
  explained := h.explained.inContext context
  spurious haborted := h.spurious ((error.isAborted_inContext context).symm.trans haborted)

namespace Procedure

variable {α β : Type} {past : History}

/-- A procedure that submits no transaction, and whose errors are those of preparations. -/
def Prepares (procedure : Procedure α) : Prop :=
  ∀ past, procedure.Ends (fun _ call => call.Preparatory) past (fun _ _ => True) Unprepared

/-- A procedure that prepares may stand wherever its calls are allowed. -/
theorem Prepares.ends {procedure : Procedure α} {allowed : History → Call → Prop}
    {post : History → α → Prop} (h : procedure.Prepares)
    (hallowed : ∀ later call, call.Preparatory → allowed later call)
    (hmeets : procedure.Meets (fun _ _ => True) past post) :
    procedure.Ends allowed past
      (fun later a => later.submissions = past.submissions ∧ post later a)
      fun later error => later.submissions = past.submissions ∧ Unprepared later error := by
  have hkept := Session.Conforms.keeps (fun later => later.submissions = past.submissions)
    ((h past).and_meets hmeets) rfl fun later call answer hlater hcall =>
      (later.submissions_append_of_preparatory hcall answer).trans hlater
  apply Session.Conforms.mono hkept
  · intro later call _ hcall
    exact hallowed later call hcall.2
  · intro later result _ hresult
    cases result with
    | ok a => exact ⟨hresult.1, hresult.2.2⟩
    | error error => exact hresult

theorem prepares_pure (a : α) : (pure a : Procedure α).Prepares :=
  fun _ => ends_pure trivial

theorem prepares_throw {error : Error} (h : error.isPlain = true) :
    (throw error : Procedure α).Prepares :=
  fun _ => ends_throw (unprepared_of_isPlain h)

theorem Prepares.bind {procedure : Procedure α} {next : α → Procedure β}
    (h : procedure.Prepares) (hnext : ∀ a, (next a).Prepares) : (procedure >>= next).Prepares :=
  fun past => (h past).bind fun later a _ _ => hnext a later

theorem Prepares.map {procedure : Procedure α} (h : procedure.Prepares) (f : α → β) :
    (f <$> procedure).Prepares := by
  rw [map_eq_pure_bind]
  exact h.bind fun a => prepares_pure (f a)

theorem Prepares.inContext {procedure : Procedure α} (h : procedure.Prepares)
    (context : String) : (inContext context procedure).Prepares :=
  fun past => (h past).inContext context fun _ _ hfault => hfault.inContext context

theorem prepares_liftM {decision : Except Error α}
    (h : ∀ error, decision = .error error → error.isPlain = true) :
    (liftM decision : Procedure α).Prepares := by
  cases decision with
  | ok a => exact prepares_pure a
  | error error => exact prepares_throw (h error rfl)

theorem prepares_mapM {f : α → Procedure β} (h : ∀ a, (f a).Prepares) (items : List α) :
    (items.mapM f).Prepares := by
  induction items with
  | nil => exact prepares_pure []
  | cons first rest ih =>
    rw [List.mapM_cons]
    apply (h first).bind
    intro b
    apply ih.bind
    intro results
    exact prepares_pure (b :: results)

/-- What follows a check prepares if it does so where the check succeeds. -/
theorem Prepares.unless {condition : Prop} [Decidable condition] {error : Error}
    {rest : PUnit → Procedure α} (herror : error.isPlain = true) (h : (rest ⟨⟩).Prepares) :
    (if condition then throw error >>= rest else rest ⟨⟩).Prepares := by
  split
  · exact prepares_throw herror
  · exact h

theorem prepares_ask {call : Call} (h : call.Preparatory) : (ask call).Prepares :=
  fun _ => ⟨h, fun _ => trivial⟩

/-- A document is read as a record of its kind, or it explains why it is not. -/
theorem prepares_fetch? (type : ResourceType) {decode : Decoder α}
    (hdecode : ∀ document, type.IsReadAs document → ∃ record, decode document = .ok record)
    (key : String) : (fetch? decode type.collection key).Prepares := by
  intro past
  have hcall : (Call.get type.collection key).Preparatory := trivial
  unfold fetch?
  refine Ends.bind (ends_ask hcall) ?_
  rintro asked answer - rfl
  cases answer with
  | error failure =>
    have hmem : (⟨.get type.collection key, .error failure⟩ : Exchange) ∈
        past ++ [⟨.get type.collection key, .error failure⟩] := by simp
    exact ends_throw (unprepared_of_failure hmem rfl hcall)
  | ok document? =>
    cases document? with
    | none => exact ends_pure trivial
    | some document =>
      change Ends _ _ (decoded decode document >>= fun record => pure (some record)) _ _
      unfold decoded
      split
      · exact ends_pure trivial
      · next complaint hcomplaint =>
        have hread : ¬type.IsReadAs document := by
          intro hread
          obtain ⟨record, hrecord⟩ := hdecode document hread
          cases hrecord.symm.trans hcomplaint
        have hmem : (⟨.get type.collection key, .ok (some document)⟩ : Exchange) ∈
            past ++ [⟨.get type.collection key, .ok (some document)⟩] := by simp
        exact ends_throw ⟨.unreadable hmem hread _, nofun⟩

theorem prepares_fetch (type : ResourceType) {decode : Decoder α}
    (hdecode : ∀ document, type.IsReadAs document → ∃ record, decode document = .ok record)
    (missing : ResourceType) (key : String) :
    (fetch decode missing type.collection key).Prepares := by
  unfold fetch
  apply (prepares_fetch? type hdecode key).bind
  intro record?
  cases record? with
  | some record => exact prepares_pure record
  | none => exact prepares_throw rfl

end Procedure

end ControlPlane
