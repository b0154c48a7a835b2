import ControlPlane.Proofs.Run.AllOrNothing
import ControlPlane.Proofs.Run.Races
import ControlPlane.Proofs.Session.Promptness

/-!
# Which failures are worth another try

A task reports a lost race only if its own transaction was aborted, and an
unavailable service only if the store was unavailable to one of its own calls;
nothing was applied in either case.  The other way round, a store that is
unavailable when it is asked for a document or a number ends the task at once,
with what the store said at the end of the message.  The one exception reads
the machine again after any failure: `Machine.setSupportedContainers`.
-/

namespace ControlPlane

open Json Store Procedure

/-! ## Tasks that end with the first failure -/

theorem Environment.prompt_fetch : Environment.fetch.Prompt :=
  prompt_closed.environment prompt_get

theorem Environment.prompt_destroy : destroy.Prompt := by
  unfold destroy
  apply prompt_closed.bind prompt_fetch
  intro environment
  split
  · exact prompt_closed.pure ()
  · apply Prompt.transact
    intro answer
    split
    · exact prompt_closed.pure ()
    · exact prompt_closed.pure ()
    · exact prompt_closed.throw _

/-- After a failed transaction the environment is read again, and if that fails it is the error. -/
theorem prompt_commit (ops : List Op) : (commit ops).Prompt := by
  unfold commit
  apply prompt_closed.bind (prompt_closed.requireAlive prompt_get)
  intro _
  apply Prompt.transact
  intro answer
  cases answer with
  | ok _ => exact prompt_closed.pure ()
  | error failure =>
    apply Environment.prompt_fetch.attempt
    · intro result
      cases result with
      | ok environment =>
        dsimp only
        split
        · exact prompt_closed.throw _
        · exact prompt_closed.throw _
      | error error => cases error <;> exact prompt_closed.throw _
    · intro exchange cause error hcause hwraps
      cases error with
      | objectNotFound type lookup =>
        rw [hwraps.eq_of_isPlain rfl] at hcause
        exact absurd hcause (exchange.blame?_ne_objectNotFound type lookup)
      | _ => exact ⟨_, rfl, hwraps⟩

theorem Controller.prompt_establish (quorum : QuorumConfig) (uuid : Uuid)
    (constraints : Constraints) : (establish quorum uuid constraints).Prompt := by
  unfold establish
  apply prompt_closed.bind (prompt_closed.liftM _)
  intro controller
  apply Prompt.transact
  intro answer
  split
  · exact prompt_closed.pure _
  · exact prompt_closed.throw _
  · exact prompt_closed.throw _

/-- The request records what a machine supports. -/
def Request.IsReport : Request → Prop
  | setSupportedContainers _ _ => True
  | _ => False

/-- The task records what a machine supports. -/
def Task.IsReport : Task → Prop
  | establish _ _ _ => False
  | request _ asked => asked.IsReport

theorem Task.prompt_procedure {task : Task} (h : ¬task.IsReport) : task.procedure.Prompt := by
  have hfetch : ∀ {α : Type} (decode : Decoder α) (type : ResourceType) (collection key : String),
      (fetch decode type collection key).Prompt := prompt_closed.fetch prompt_get
  cases task with
  | establish quorum uuid constraints => exact Controller.prompt_establish quorum uuid constraints
  | request controller asked =>
    cases asked with
    | environment => exact Environment.prompt_fetch
    | environmentConstraints => exact hfetch _ _ _ _
    | setEnvironmentConstraints constraints => exact prompt_commit _
    | destroyEnvironment => exact Environment.prompt_destroy
    | nextNumber counter => exact prompt_nextNumber counter
    | stateServers => exact prompt_closed.stateServers prompt_get
    | ensureAvailability target constraints series =>
      exact prompt_closed.ensureAvailability prompt_get prompt_nextNumber prompt_precheck
        prompt_commit controller target constraints series
    | machine id => exact hfetch _ _ _ _
    | containers id => exact prompt_closed.map (hfetch _ _ _ _) _
    | machineConstraints id => exact hfetch _ _ _ _
    | machineStatus id => exact hfetch _ _ _ _
    | instanceData id => exact hfetch _ _ _ _
    | setSupportedContainers id kinds => exact absurd trivial h
    | addMachines raws =>
      exact prompt_closed.addAll prompt_get prompt_nextNumber prompt_precheck prompt_commit raws
    | addMachine raw =>
      exact prompt_closed.add prompt_get prompt_nextNumber prompt_precheck prompt_commit raw
    | addInside raw parent kind =>
      exact prompt_closed.addInside prompt_get (fun _ _ => prompt_nextNumber _) prompt_commit raw
        parent kind
    | addInsideNew raw rawParent kind =>
      exact prompt_closed.addInsideNew prompt_get prompt_nextNumber prompt_precheck prompt_commit
        raw rawParent kind

/-! ## What a retryable error stands for -/

namespace Error

/-- The error stands for an unavailable store. -/
def isUnavailable : Error → Bool
  | serviceUnavailable _ => true
  | _ => false

@[simp] theorem isUnavailable_inContext (context : String) (error : Error) :
    (error.inContext context).isUnavailable = error.isUnavailable := by
  cases error <;> rfl

theorem isUnavailable_of_isPlain {error : Error} (h : error.isPlain = true) :
    error.isUnavailable = false := by
  cases error with
  | serviceUnavailable _ => cases h
  | _ => rfl

/-- The errors that are worth another try. -/
theorem retryable_cases {error : Error} (h : error.retryable = true) :
    (∃ text, error = .transactionAborted text) ∨ ∃ text, error = .serviceUnavailable text := by
  cases error with
  | transactionAborted text => exact .inl ⟨text, rfl⟩
  | serviceUnavailable text => exact .inr ⟨text, rfl⟩
  | _ => cases h

end Error

/-- An error of a class that context does not change, and that neither the errors which speak of
the request nor internal ones are in, is that of a failure of the store. -/
theorem History.Explains.exists_failure {past : History} {error : Error}
    (h : past.Explains error) (test : Error → Bool) (herror : test error = true)
    (hcontext : ∀ context error, test (error.inContext context) = test error)
    (hplain : ∀ error, error.isPlain = true → test error = false)
    (hinternal : ∀ message, test (.internalError message) = false) :
    ∃ exchange ∈ past, ∃ failure,
      exchange.failure? = some failure ∧ test failure.toError = true := by
  induction h with
  | plain h => exact absurd herror (Bool.eq_false_iff.mp (hplain _ h))
  | failure hmem hfailure => exact ⟨_, hmem, _, hfailure, herror⟩
  | unreadable hmem hread message => exact absurd herror (Bool.eq_false_iff.mp (hinternal message))
  | prechecker hmem message => exact absurd herror (Bool.eq_false_iff.mp (hinternal message))
  | inContext _ context ih => exact ih ((hcontext context _).symm.trans herror)

/-- A failure is that of a transaction, or of a call whose failure ends a prompt procedure and where
there is no race to lose. -/
theorem Exchange.transact_or_blame? {exchange : Exchange} {failure : StoreError}
    (h : exchange.failure? = some failure) :
    (∃ ops, exchange = ⟨.transact ops, .error failure⟩) ∨
      exchange.blame? = some failure.toError ∧
        (failure.isAborted = true → exchange.Spurious) := by
  obtain ⟨call, answer⟩ := exchange
  cases call with
  | prechecker => cases h
  | precheck series constraints => cases h
  | transact ops =>
    cases answer with
    | ok _ => cases h
    | error given =>
      obtain rfl := Option.some.inj h
      exact .inl ⟨ops, rfl⟩
  | _ =>
    cases answer with
    | ok _ => cases h
    | error given =>
      obtain rfl := Option.some.inj h
      exact .inr ⟨rfl, id⟩

variable {task : Task} {moments : List Moment} {rest : Session (Except Error task.Result)}

/-- A task that ends in an error has applied nothing. -/
theorem Task.nothing_applied {error : Error}
    (h : task.procedure.run.Converses moments (.done (.error error))) :
    (∀ moment ∈ moments, ∀ ops, ¬moment.Applies ops) ∧
      ∀ moment ∈ moments, moment.Idle ∨ moment.Counts := by
  have hfailed : Failed (fun later => task.Lost later) (exchanges moments) error := by
    have hends := h.conforms task.procedure_ends
    rwa [List.nil_append] at hends
  have hnone : ∀ moment ∈ moments, ∀ ops, ¬moment.Applies ops := by
    intro moment hmem ops happlies
    have hsubmission : moment.exchange.submission? = some (ops, .ok ()) := by
      rw [happlies.1]
      rfl
    exact hfailed.refused (ops, .ok ())
      (List.mem_filterMap.mpr ⟨_, List.mem_map_of_mem hmem, hsubmission⟩) rfl
  refine ⟨hnone, fun moment hmem => (Task.applies_or_quiet h hmem).resolve_left ?_⟩
  rintro ⟨ops, happlies⟩
  exact hnone moment hmem ops happlies

/-- What a task has asked explains the error that it ends in. -/
theorem Task.explains {error : Error}
    (h : task.procedure.run.Converses moments (.done (.error error))) :
    (exchanges moments).Explains error := by
  have hfailed : Failed (fun later => task.Lost later) ([] ++ exchanges moments) error :=
    h.conforms task.procedure_ends
  exact hfailed.explained

/-- A task that reports an aborted transaction has had one aborted by the store. -/
theorem Task.exists_aborted {text : String}
    (h : task.procedure.run.Converses moments (.done (.error (.transactionAborted text))))
    (hspurious : ¬(exchanges moments).Spurious) :
    ∃ moment ∈ moments, ∃ ops failure,
      moment.exchange = ⟨.transact ops, .error failure⟩ ∧ failure.isAborted = true := by
  obtain ⟨exchange, hmem, failure, hfailure, haborted⟩ :=
    (Task.explains h).exists_failure Error.isAborted rfl Error.isAborted_inContext
      (fun _ => Error.isAborted_of_isPlain) fun _ => rfl
  rw [StoreError.isAborted_toError] at haborted
  obtain ⟨moment, hmoment, rfl⟩ := List.mem_map.mp hmem
  rcases Exchange.transact_or_blame? hfailure with ⟨ops, hexchange⟩ | ⟨-, hasked⟩
  · exact ⟨moment, hmoment, ops, failure, hexchange, haborted⟩
  · exact absurd ⟨_, hmem, hasked haborted⟩ hspurious

/-- A task that reports an unavailable service has found the store unavailable. -/
theorem Task.exists_unavailable {text : String}
    (h : task.procedure.run.Converses moments (.done (.error (.serviceUnavailable text)))) :
    ∃ moment ∈ moments, ∃ message,
      moment.exchange.failure? = some (.unavailable message) := by
  obtain ⟨exchange, hmem, failure, hfailure, hunavailable⟩ :=
    (Task.explains h).exists_failure Error.isUnavailable rfl Error.isUnavailable_inContext
      (fun _ => Error.isUnavailable_of_isPlain) fun _ => rfl
  obtain ⟨moment, hmoment, rfl⟩ := List.mem_map.mp hmem
  cases failure with
  | unavailable message => exact ⟨moment, hmoment, message, hfailure⟩
  | _ => cases hunavailable

/-- A store that is unavailable when it is asked for a document or a number is heard last, and what
it has said ends the message. -/
theorem Task.ends_of_unavailable {moment : Moment} {message : String}
    (h : task.procedure.run.Converses moments rest) (hreport : ¬task.IsReport)
    (hmem : moment ∈ moments) (hsubmission : moment.exchange.submission? = none)
    (hfailure : moment.exchange.failure? = some (.unavailable message)) :
    (∃ earlier, moments = earlier ++ [moment]) ∧
      ∃ text, rest = .done (.error (.serviceUnavailable (text ++ message))) := by
  rcases Exchange.transact_or_blame? hfailure with ⟨ops, hexchange⟩ | ⟨hblame, -⟩
  · rw [hexchange] at hsubmission
    cases hsubmission
  · obtain ⟨hlast, error, rfl, hwraps⟩ :=
      h.last_of_blame (Task.prompt_procedure hreport) hmem hblame
    obtain ⟨text, rfl⟩ := hwraps.exists_append
    exact ⟨hlast, text, rfl⟩

/-- An aborted transaction is reported only where the store has aborted one, as long as no call for
a document or a number has been answered with one: only a transaction can be aborted.  An
unavailable service is reported only where the store was unavailable to a call.  These are the
errors that are worth another try, and nothing was applied before them.  Except when a task records
what a machine supports, a store that is unavailable to anything but its transaction ends it at
once, and what the store has said ends the message. -/
theorem retryable_only_if_store_failed (h : task.procedure.run.Converses moments rest) :
    (∀ text, rest = .done (.error (.transactionAborted text)) → ¬(exchanges moments).Spurious →
      ∃ moment ∈ moments, ∃ ops failure,
        moment.exchange = ⟨.transact ops, .error failure⟩ ∧ failure.isAborted = true) ∧
      (∀ text, rest = .done (.error (.serviceUnavailable text)) →
        ∃ moment ∈ moments, ∃ message,
          moment.exchange.failure? = some (.unavailable message)) ∧
      (∀ error, rest = .done (.error error) → error.retryable = true →
        ((∃ text, error = .transactionAborted text) ∨ ∃ text, error = .serviceUnavailable text) ∧
          (∀ moment ∈ moments, ∀ ops, ¬moment.Applies ops) ∧
          ∀ moment ∈ moments, moment.Idle ∨ moment.Counts) ∧
      (¬task.IsReport → ∀ moment ∈ moments, ∀ message,
        moment.exchange.submission? = none →
          moment.exchange.failure? = some (.unavailable message) →
            (∃ earlier, moments = earlier ++ [moment]) ∧
              ∃ text, rest = .done (.error (.serviceUnavailable (text ++ message)))) := by
  refine ⟨?_, ?_, ?_, ?_⟩
  · rintro text rfl hspurious
    exact Task.exists_aborted h hspurious
  · rintro text rfl
    exact Task.exists_unavailable h
  · rintro error rfl hretryable
    exact ⟨Error.retryable_cases hretryable, Task.nothing_applied h⟩
  · intro hreport moment hmem message hsubmission hfailure
    exact Task.ends_of_unavailable h hreport hmem hsubmission hfailure

/-- Of two requests for state servers that have read the same lists, the one that is overtaken
reports an aborted transaction, and has applied nothing. -/
theorem retryable_only_if_store_failed_overtaken :
    ∃ (moments : List Moment) (text : String),
      (World.usual.ensureAvailability 3 {} "jammy").run.Converses moments
          (.done (.error (.transactionAborted text))) ∧
        (∃ moment ∈ moments, ∃ ops failure,
          moment.exchange = ⟨.transact ops, .error failure⟩ ∧ failure.isAborted = true) ∧
        ∀ moment ∈ moments, moment.Idle ∨ moment.Counts := by
  obtain ⟨moments, hconverses, hanswers⟩ :=
    World.founded.exists_converses_overtaken none Call.isTransact .raising .raising
  obtain ⟨text, htext⟩ := World.exists_aborted_overtaken
  rw [htext] at hconverses
  have hspurious : ¬(exchanges moments).Spurious := by
    rintro ⟨exchange, hmem, hspurious⟩
    obtain ⟨moment, hmoment, rfl⟩ := List.mem_map.mp hmem
    exact (hanswers moment hmoment).not_spurious hspurious
  obtain ⟨haborts, -, hretries, -⟩ := retryable_only_if_store_failed hconverses
  exact ⟨moments, text, hconverses, haborts text rfl hspurious, (hretries _ rfl rfl).2.2⟩

end ControlPlane
