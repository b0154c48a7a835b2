import ControlPlane.Proofs.Environment.Death
import ControlPlane.Proofs.Run.AllOrNothing

/-!
# Committing a batch

To commit a batch is to ask for the environment, to submit the batch together
with the assertion that the environment is alive, and if that fails to ask for
the environment again.  Here are the ways that this can go.
-/

namespace ControlPlane

open Json Store

/-- What follows a procedure of a single call goes on from the answer. -/
theorem Procedure.run_bind_of_call {α β : Type} {procedure : Procedure α} {call : Call}
    {result : call.Answer → Except Error α}
    (h : procedure.run = .ask call fun answer => .done (result answer)) (next : α → Procedure β) :
    (procedure >>= next).run = .ask call fun answer =>
      match result answer with
      | .ok a => (next a).run
      | .error error => .done (.error error) := by
  change Session.bind procedure.run _ = _
  rw [h]
  refine congrArg (Session.ask call) (funext fun answer => ?_)
  cases hresult : result answer with
  | ok a => simp only [Session.bind, hresult]; rfl
  | error error => simp only [Session.bind, hresult]; rfl

namespace Environment

/-- What the answer to the question for the environment tells. -/
def told : Except StoreError (Option Value) → Except Error Environment
  | .error failure => .error failure.toError
  | .ok none => .error (.objectNotFound .environment (.byGlobalKey Layout.environmentKey))
  | .ok (some document) =>
    (decode document).mapError fun complaint => .internalError complaint.message

theorem run_fetch :
    fetch.run = .ask (.get Layout.environments Layout.environmentKey)
      fun answer => .done (told answer) := by
  refine congrArg (Session.ask _) (funext fun answer => ?_)
  rcases answer with failure | ⟨_ | document⟩
  · rfl
  · rfl
  · change Session.bind (Session.bind (Procedure.decoded decode document).run _) _ = _
    rw [Procedure.decoded, told]
    cases decode document <;> rfl

theorem run_attempt_fetch :
    (Procedure.attempt fetch).run = .ask (.get Layout.environments Layout.environmentKey)
      fun answer => .done (.ok (told answer)) := by
  change Session.bind fetch.run _ = _
  rw [run_fetch]
  rfl

/-- The error of a batch whose transaction has failed, given what is told of the environment. -/
def verdict (failure : StoreError) : Except Error Environment → Error
  | .ok environment => if environment.life = .alive then failure.toError else .environmentNotAlive
  | .error (.objectNotFound _ _) => .environmentNotAlive
  | .error error => error

/-- To submit a batch is to make its transaction, and to ask for the environment if that fails. -/
def submit (ops : List Op) : Session (Except Error Unit) :=
  .ask (.transact (checkAliveOp :: ops)) fun
    | .ok () => .done (.ok ())
    | .error failure =>
      .ask (.get Layout.environments Layout.environmentKey) fun answer =>
        .done (.error (verdict failure (told answer)))

end Environment

theorem run_commit (ops : List Op) :
    (commit ops).run = .ask (.get Layout.environments Layout.environmentKey) fun answer =>
      match Environment.told answer with
      | .error error => .done (.error error)
      | .ok environment =>
        if environment.life ≠ .alive then .done (.error .environmentNotAlive)
        else Environment.submit ops := by
  unfold commit Environment.requireAlive
  rw [bind_assoc, Procedure.run_bind_of_call Environment.run_fetch]
  refine congrArg (Session.ask _) (funext fun answer => ?_)
  cases Environment.told answer with
  | error error => rfl
  | ok environment =>
    dsimp only
    split
    · rfl
    · refine congrArg (Session.ask _) (funext fun reply => ?_)
      cases reply with
      | ok _ => rfl
      | error failure =>
        refine (Procedure.run_bind_of_call Environment.run_attempt_fetch _).trans ?_
        refine congrArg (Session.ask _) (funext fun answer => ?_)
        rcases Environment.told answer with error | environment
        · cases error <;> rfl
        · dsimp only [Environment.verdict]
          split <;> rfl

/-- The moment is the question for the environment, and its answer tells the result. -/
def Moment.Tells (moment : Moment) (result : Except Error Environment) : Prop :=
  ∃ answer, moment.exchange = ⟨.get Layout.environments Layout.environmentKey, answer⟩ ∧
    Environment.told answer = result

/-- How far a batch has come after the moments of its calls. -/
inductive Committing (ops : List Op) : List Moment → Session (Except Error Unit) → Prop where
  | begun {next : Except StoreError (Option Value) → Session (Except Error Unit)} :
      Committing ops [] (.ask (.get Layout.environments Layout.environmentKey) next)
  /-- The environment could not be read. -/
  | unread {first : Moment} {error : Error} (hfirst : first.Tells (.error error)) :
      Committing ops [first] (.done (.error error))
  /-- The environment was no longer alive from the beginning. -/
  | late {first : Moment} {environment : Environment} (hfirst : first.Tells (.ok environment))
      (hdead : environment.life ≠ .alive) :
      Committing ops [first] (.done (.error .environmentNotAlive))
  | checked {first : Moment} {environment : Environment}
      {next : Except StoreError Unit → Session (Except Error Unit)}
      (hfirst : first.Tells (.ok environment)) (halive : environment.life = .alive) :
      Committing ops [first] (.ask (.transact (Environment.checkAliveOp :: ops)) next)
  | committed {first asked : Moment} {environment : Environment}
      (hfirst : first.Tells (.ok environment)) (halive : environment.life = .alive)
      (hasked : asked.exchange = ⟨.transact (Environment.checkAliveOp :: ops), .ok ()⟩) :
      Committing ops [first, asked] (.done (.ok ()))
  | failed {first asked : Moment} {environment : Environment} {failure : StoreError}
      {next : Except StoreError (Option Value) → Session (Except Error Unit)}
      (hfirst : first.Tells (.ok environment)) (halive : environment.life = .alive)
      (hasked : asked.exchange = ⟨.transact (Environment.checkAliveOp :: ops), .error failure⟩) :
      Committing ops [first, asked] (.ask (.get Layout.environments Layout.environmentKey) next)
  /-- The environment has been asked for again, and the failure been judged by that. -/
  | judged {first asked reread : Moment} {environment : Environment} {failure : StoreError}
      {result : Except Error Environment}
      (hfirst : first.Tells (.ok environment)) (halive : environment.life = .alive)
      (hasked : asked.exchange = ⟨.transact (Environment.checkAliveOp :: ops), .error failure⟩)
      (hreread : reread.Tells result) :
      Committing ops [first, asked, reread] (.done (.error (Environment.verdict failure result)))

/-- Committing a batch goes one of these ways, whatever happens between the calls. -/
theorem Session.Converses.committing {ops : List Op} {moments : List Moment}
    {rest : Session (Except Error Unit)} (h : (commit ops).run.Converses moments rest) :
    Committing ops moments rest := by
  rw [run_commit] at h
  cases h with
  | nil _ => exact .begun
  | @cons _ _ answer before after _ _ _ hnext =>
    have hfirst : Moment.Tells
        ⟨before, ⟨.get Layout.environments Layout.environmentKey, answer⟩, after⟩ _ :=
      ⟨answer, rfl, rfl⟩
    cases htold : Environment.told answer with
    | error error =>
      simp only [htold] at hnext hfirst
      cases hnext
      exact .unread hfirst
    | ok environment =>
      simp only [htold] at hnext hfirst
      by_cases halive : environment.life = .alive
      · rw [if_neg (not_not_intro halive)] at hnext
        cases hnext with
        | nil _ => exact .checked hfirst halive
        | @cons _ _ reply _ _ _ _ _ hnext =>
          cases reply with
          | ok _ =>
            cases hnext
            exact .committed hfirst halive rfl
          | error failure =>
            cases hnext with
            | nil _ => exact .failed hfirst halive rfl
            | cons _ hnext =>
              cases hnext
              exact .judged hfirst halive rfl ⟨_, rfl, rfl⟩
      · rw [if_pos halive] at hnext
        cases hnext
        exact .late hfirst halive

end ControlPlane
