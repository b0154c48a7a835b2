import ControlPlane.Proofs.Machine.Identity
import ControlPlane.Proofs.Run.Requests
import ControlPlane.Proofs.Session.Composition
import ControlPlane.Proofs.Session.Outcome

/-!
# Calls that admit machines

A root machine is admitted by questions to the policy and by its number.  These
are the calls of admission, and a procedure that makes none of them may stand
between them without being noticed.  What is said of the admissions so far is
to hold after every call, whatever it is answered, and what is submitted may
depend on them.
-/

namespace ControlPlane

open Json Store

/-- The call asks the policy, or draws the number of a root machine. -/
def Call.isAdmission : Call → Bool
  | .prechecker => true
  | .precheck _ _ => true
  | .increment _ counter _ => counter == MachineId.rootCounter
  | _ => false

/-- The call has nothing to do with the admission of machines, and submits nothing. -/
def Call.IsAside : Call → Prop
  | .get _ _ => True
  | .increment _ counter _ => counter ≠ MachineId.rootCounter
  | _ => False

theorem Call.IsAside.isAdmission_eq_false {call : Call} (h : call.IsAside) :
    call.isAdmission = false := by
  cases call with
  | get collection id => rfl
  | increment collection counter field => exact beq_eq_false_iff_ne.mpr h
  | _ => cases h

namespace History

/-- The questions to the policy and the numbers of root machines, with what was answered. -/
def admissions (past : History) : History :=
  past.filter (·.call.isAdmission)

variable {call : Call}

theorem admissions_append_of_not (past : History) (h : call.isAdmission = false)
    (answer : call.Answer) : admissions (past ++ [⟨call, answer⟩]) = past.admissions := by
  rw [admissions, List.filter_append, List.filter_singleton, h]
  exact List.append_nil _

theorem admissions_append (past : History) (h : call.isAdmission = true)
    (answer : call.Answer) :
    admissions (past ++ [⟨call, answer⟩]) = past.admissions ++ [⟨call, answer⟩] := by
  rw [admissions, List.filter_append, List.filter_singleton, h]
  rfl

end History

/-- After the call the admissions are at one of the stages, whatever the answer is, and a
transaction is one that may be submitted. -/
def Careful (stage : History → Prop) (submits : History → List Op → Prop) (past : History)
    (call : Call) : Prop :=
  (∀ answer, stage (History.admissions (past ++ [⟨call, answer⟩]))) ∧
    ∀ ops, call = .transact ops → submits past ops

namespace Procedure

variable {α : Type} {allowed : Call → Prop} {past : History} {stage : History → Prop}
  {submits : History → List Op → Prop}

/-- A procedure makes no calls but those that are allowed. -/
def Calls (allowed : Call → Prop) (procedure : Procedure α) : Prop :=
  ∀ past, procedure.Meets (fun _ call => allowed call) past fun _ _ => True

theorem calls_closed (allowed : Call → Prop) : Closed (Calls allowed) where
  pure _ _ := meets_pure trivial
  throw error _ := meets_throw error
  bind h hnext past := (h past).bind fun later a _ _ => hnext a later
  inContext h context past := (h past).inContext context

theorem calls_get (hget : ∀ collection id, allowed (.get collection id))
    (collection id : String) : (ask (.get collection id) >>= answered).Calls allowed := by
  intro past
  apply (meets_ask (hget collection id)).bind
  intro later answer _ _
  exact (meets_answered answer).mono fun _ _ _ _ => trivial

theorem calls_nextNumber {counter : String}
    (hcounter : allowed (.increment Layout.sequence counter "counter")) :
    (nextNumber counter).Calls allowed := by
  apply (calls_closed allowed).inContext
  intro past
  apply (meets_ask hcounter).bind
  intro later answer _ _
  exact (meets_answered answer).mono fun _ _ _ _ => trivial

theorem calls_commit (hget : ∀ collection id, allowed (.get collection id))
    (htransact : ∀ ops, allowed (.transact ops)) (ops : List Op) : (commit ops).Calls allowed := by
  have hclosed := calls_closed allowed
  unfold commit
  apply hclosed.bind (hclosed.requireAlive (calls_get hget))
  intro _ past
  apply (meets_ask (htransact _)).bind
  intro later answer _ _
  cases answer with
  | ok _ => exact meets_pure trivial
  | error failure =>
    apply (hclosed.environment (calls_get hget) later).attempt.bind
    intro final result _ _
    split
    · split
      · exact meets_throw _
      · exact meets_throw _
    · exact meets_throw _
    · exact meets_throw _

/-- A procedure that has nothing to do with admissions leaves them at their stage. -/
theorem Calls.careful {procedure : Procedure α} {post : History → α → Prop}
    (h : procedure.Calls Call.IsAside) (hstage : stage past.admissions)
    (hmeets : procedure.Meets (Lawful 1) past post) :
    procedure.Meets (Careful stage submits) past fun later a =>
      later.admissions = past.admissions ∧ post later a := by
  have hboth := Session.Conforms.and (h past) hmeets
  have hkept := hboth.keeps (fun later => later.admissions = past.admissions) rfl
    fun later call answer hlater hcall =>
      (later.admissions_append_of_not hcall.1.isAdmission_eq_false answer).trans hlater
  apply Session.Conforms.mono hkept
  · rintro later call - ⟨hsame, haside, -⟩
    refine ⟨fun answer => ?_, fun ops htransact => ?_⟩
    · rw [History.admissions_append_of_not later haside.isAdmission_eq_false, hsame]
      exact hstage
    · rw [htransact] at haside
      cases haside
  · rintro later result - ⟨hsame, -, hresult⟩ a ha
    exact ⟨hsame, hresult a ha⟩

/-- A decision asks nothing. -/
theorem meets_decision {allowed : History → Call → Prop} (decision : Except Error α) :
    Meets allowed past (liftM decision : Procedure α) fun later a =>
      later = past ∧ decision = .ok a := by
  cases decision with
  | ok a => exact meets_pure ⟨rfl, rfl⟩
  | error error => exact meets_throw error

/-- A commit leaves the admissions at their stage, and ends with its transaction if it succeeds. -/
theorem commit_careful {ops : List Op} (hstage : stage past.admissions)
    (hsubmits : ∀ later : History, past <+: later → later.admissions = past.admissions →
      submits later (Environment.checkAliveOp :: ops)) :
    (commit ops).Meets (Careful stage submits) past fun later _ => ∃ asked : History,
      past <+: asked ∧
      asked.admissions = past.admissions ∧
      later = asked ++ [⟨.transact (Environment.checkAliveOp :: ops), .ok ()⟩] := by
  have haside := calls_closed Call.IsAside
  have hget : ∀ collection id, (Call.get collection id).IsAside := fun _ _ => trivial
  have hread : Environment.fetch.Calls Call.IsAside := haside.environment (calls_get hget)
  unfold commit
  apply ((haside.requireAlive (calls_get hget)).careful hstage
    Environment.requireAlive_meets).bind
  rintro checked _ hextend ⟨hchecked, -⟩
  have hasked : ∀ answer, History.admissions (checked ++
      [⟨.transact (Environment.checkAliveOp :: ops), answer⟩]) = past.admissions :=
    fun answer => (History.admissions_append_of_not checked rfl answer).trans hchecked
  have hallowed : Careful stage submits checked (.transact (Environment.checkAliveOp :: ops)) := by
    refine ⟨fun answer => ?_, ?_⟩
    · rw [hasked]
      exact hstage
    · rintro _ ⟨⟩
      exact hsubmits checked hextend hchecked
  apply (meets_ask hallowed).bind
  rintro later answer - rfl
  cases answer with
  | ok _ => exact meets_pure ⟨checked, hextend, hchecked, rfl⟩
  | error failure =>
    rw [← hasked (.error failure)] at hstage
    apply (hread.careful hstage Environment.fetch_meets).attempt.bind
    intro final result _ _
    split
    · split
      · exact meets_throw _
      · exact meets_throw _
    · exact meets_throw _
    · exact meets_throw _

end Procedure

end ControlPlane
