import ControlPlane.Proofs.Records.Plans
import ControlPlane.Proofs.Run.Numbers
import ControlPlane.Proofs.Run.Preparations

/-!
# How requests end

A request submits one transaction at most, after all its preparations.  Where
it succeeds the transaction has taken place, unless there was nothing to do;
where it fails no transaction has.  The error of a lost race is kept apart: it
is reported only if the transaction was aborted although the environment was
alive when it was read again.
-/

namespace ControlPlane

open Json Store Procedure

/-- The first transaction is one that the task admits, there is no second one, and all other
calls prepare. -/
def Disciplined (admits : History → List Op → Prop) (past : History) : Call → Prop
  | .transact ops => past.submissions = [] ∧ admits past ops
  | call => call.Preparatory

/-- The error of a request none of whose transactions took place; what has been asked explains it,
and a lost race is reported only by a request that lost one. -/
structure Failed (lost : History → Prop) (past : History) (error : Error) : Prop where
  refused : ∀ submission ∈ past.submissions, submission.2 ≠ .ok ()
  explained : past.Explains error
  cause : error.isAborted = true → past.Spurious ∨ lost past

namespace History

/-- One transaction was submitted, and it took place. -/
def Committed (past : History) : Prop :=
  ∃ ops, past.submissions = [(ops, .ok ())]

/-- The last exchange has found a document. -/
def HasRead (past later : History) (collection id : String) (document : Value) : Prop :=
  later = past ++ [⟨.get collection id, .ok (some document)⟩]

/-- A transaction was aborted in an environment that had been found before, and that was still
alive when it was read again. -/
def LostRace (ops : List Op) (later : History) : Prop :=
  ∃ (past : History) (environment environment' : Environment) (failure : StoreError)
    (document : Value),
    past.Found Environment.decode Layout.environments Layout.environmentKey environment ∧
      failure.isAborted = true ∧
      HasRead (past ++ [⟨.transact (Environment.checkAliveOp :: ops), .error failure⟩]) later
        Layout.environments Layout.environmentKey document ∧
      Environment.decode document = .ok environment' ∧ environment'.life = .alive

end History

variable {limit : Nat} {past later : History} {admits : History → List Op → Prop}
  {lost : History → Prop}

theorem disciplined_of_preparatory {call : Call} (h : call.Preparatory) :
    Disciplined admits past call := by
  cases call with
  | transact ops => cases h
  | _ => exact h

theorem Disciplined.mono {admits' : History → List Op → Prop} {call : Call}
    (h : Disciplined admits past call) (hadmits : ∀ ops, admits past ops → admits' past ops) :
    Disciplined admits' past call := by
  cases call with
  | transact ops => exact ⟨h.1, hadmits ops h.2⟩
  | _ => exact h

/-- An error that has nothing to do with races. -/
theorem failed_of_not_aborted {error : Error} (herror : error.isAborted = false)
    (hexplained : past.Explains error)
    (hrefused : ∀ submission ∈ past.submissions, submission.2 ≠ .ok ()) :
    Failed lost past error where
  refused := hrefused
  explained := hexplained
  cause haborted := absurd (herror.symm.trans haborted) Bool.false_ne_true

/-- An error that speaks of the request and of what was found. -/
theorem failed_of_isPlain {error : Error} (herror : error.isPlain = true)
    (hrefused : ∀ submission ∈ past.submissions, submission.2 ≠ .ok ()) :
    Failed lost past error :=
  failed_of_not_aborted (Error.isAborted_of_isPlain herror) (.plain herror) hrefused

theorem Failed.mono {lost' : History → Prop} {error : Error} (h : Failed lost past error)
    (hlost : lost past → lost' past) : Failed lost' past error where
  refused := h.refused
  explained := h.explained
  cause haborted := (h.cause haborted).imp_right hlost

theorem Failed.inContext {error : Error} (h : Failed lost past error) (context : String) :
    Failed lost past (error.inContext context) where
  refused := h.refused
  explained := h.explained.inContext context
  cause haborted := h.cause ((error.isAborted_inContext context).symm.trans haborted)

theorem ends_throw_quiet {α : Type} {post : History → α → Prop} {error : Error}
    (herror : error.isPlain = true) (hquiet : past.submissions = []) :
    Ends (Disciplined admits) past (throw error : Procedure α) post (Failed lost) := by
  apply ends_throw
  apply failed_of_isPlain herror
  rw [hquiet]
  exact nofun

section Preparing

variable {α : Type} {post : History → α → Prop} {procedure : Procedure α}

/-- Preparations submit nothing, and what is known of their results stays known. -/
theorem Procedure.Prepares.refused (h : procedure.Prepares)
    (hrefused : ∀ submission ∈ past.submissions, submission.2 ≠ .ok ())
    (hmeets : Meets (Lawful 1) past procedure post) :
    Ends (Disciplined admits) past procedure
      (fun later a => later.submissions = past.submissions ∧ post later a) (Failed lost) := by
  apply (h.ends (fun _ _ => disciplined_of_preparatory) hmeets.anyCall).mono
  · intro later call _ hcall
    exact hcall
  · intro later a _ hpost
    exact hpost
  · rintro later error - ⟨hsubmissions, hunprepared⟩
    refine ⟨?_, hunprepared.explained, fun haborted => .inl (hunprepared.spurious haborted)⟩
    rw [hsubmissions]
    exact hrefused

theorem Procedure.Prepares.disciplined (h : procedure.Prepares) (hquiet : past.submissions = [])
    (hmeets : Meets (Lawful 1) past procedure post) :
    Ends (Disciplined admits) past procedure
      (fun later a => later.submissions = [] ∧ post later a) (Failed lost) := by
  have hrefused : ∀ submission ∈ past.submissions, submission.2 ≠ .ok () := by
    rw [hquiet]
    exact nofun
  have hends : Ends (Disciplined admits) past procedure _ (Failed lost) :=
    h.refused hrefused hmeets
  rwa [hquiet] at hends

theorem Procedure.Ends.unless {condition : Prop} [Decidable condition] {error : Error}
    {rest : PUnit → Procedure α} (herror : error.isPlain = true)
    (hquiet : past.submissions = [])
    (h : ¬condition → Ends (Disciplined admits) past (rest ⟨⟩) post (Failed lost)) :
    Ends (Disciplined admits) past (if condition then throw error >>= rest else rest ⟨⟩) post
      (Failed lost) := by
  split
  · exact ends_throw_quiet herror hquiet
  · next hcondition => exact h hcondition

theorem ends_decision {decision : Except Error α}
    (h : ∀ error, decision = .error error → error.isPlain = true)
    (hquiet : past.submissions = []) :
    Ends (Disciplined admits) past (liftM decision : Procedure α)
      (fun later a => later = past ∧ decision = .ok a) (Failed lost) := by
  cases decision with
  | ok a => exact ends_pure ⟨rfl, rfl⟩
  | error error => exact ends_throw_quiet (h error rfl) hquiet

end Preparing

/-! ## Reading -/

section Reading

variable {α : Type}

theorem fetch?_meets_read (decode : Decoder α) (collection key : String) :
    Meets (Lawful limit) past (fetch? decode collection key) fun later record? =>
      ∀ record, record? = some record → ∃ document,
        past.HasRead later collection key document ∧ decode document = .ok record := by
  unfold fetch?
  apply (meets_ask trivial).bind
  rintro asked answer - rfl
  cases answer with
  | error failure => exact meets_throw failure.toError
  | ok document? =>
    cases document? with
    | none => exact meets_pure nofun
    | some document =>
      change Meets _ _ (decoded decode document >>= fun record => pure (some record)) _
      unfold decoded
      split
      · next record hrecord =>
        apply meets_pure
        rintro _ ⟨⟩
        exact ⟨document, rfl, hrecord⟩
      · exact meets_throw _

theorem fetch_meets_read (decode : Decoder α) (type : ResourceType) (collection key : String) :
    Meets (Lawful limit) past (fetch decode type collection key) fun later record =>
      ∃ document, past.HasRead later collection key document ∧ decode document = .ok record := by
  unfold fetch
  apply (fetch?_meets_read decode collection key).bind
  intro later record? _ hread
  cases record? with
  | none => exact meets_throw _
  | some record => exact meets_pure (hread record rfl)

end Reading

theorem History.HasRead.found {α : Type} {decode : Decoder α} {collection id : String}
    {document : Value} {record : α} (h : past.HasRead later collection id document)
    (hdecode : decode document = .ok record) : later.Found decode collection id record := by
  rw [h]
  exact ⟨document, by simp, hdecode⟩

namespace Environment

theorem fetch_meets_read :
    Meets (Lawful limit) past fetch fun later environment => ∃ document,
      past.HasRead later Layout.environments Layout.environmentKey document ∧
        decode document = .ok environment := by
  unfold fetch
  apply (fetch?_meets_read decode Layout.environments Layout.environmentKey).bind
  intro later environment? _ hread
  cases environment? with
  | none => exact meets_throw _
  | some environment => exact meets_pure (hread environment rfl)

theorem requireAlive_meets_read :
    Meets (Lawful limit) past requireAlive fun later _ => ∃ document environment,
      past.HasRead later Layout.environments Layout.environmentKey document ∧
        decode document = .ok environment ∧ environment.life = .alive := by
  unfold requireAlive
  apply fetch_meets_read.bind
  rintro later environment - ⟨document, hread, hdecode⟩
  split
  · exact meets_throw _
  · next halive =>
    exact meets_pure ⟨document, environment, hread, hdecode, not_not.mp halive⟩

end Environment

theorem StateServers.fetch_meets_read :
    Meets (Lawful limit) past StateServers.fetch fun later servers => ∃ document record,
      past.HasRead later Layout.stateServers Layout.environmentKey document ∧
        StateServersRecord.decode document = .ok record ∧ record.servers = servers := by
  apply Meets.map
  apply (ControlPlane.fetch_meets_read StateServersRecord.decode .stateServerInfo
    Layout.stateServers Layout.environmentKey).mono
  rintro later record - ⟨document, hread, hdecode⟩
  exact ⟨document, record, hread, hdecode, rfl⟩

/-! ## Committing -/

/-- A transaction that is the first one and is admitted. -/
theorem ends_transact {ops : List Op} {fault : History → Error → Prop}
    (hquiet : past.submissions = []) (hadmits : admits past ops) :
    Ends (Disciplined admits) past (ask (.transact ops))
      (fun later answer => later = past ++ [⟨.transact ops, answer⟩] ∧
        later.submissions = [(ops, answer)]) fault := by
  have hallowed : Disciplined admits past (.transact ops) := ⟨hquiet, hadmits⟩
  apply (ends_ask hallowed).weaken
  rintro later answer - rfl
  refine ⟨rfl, ?_⟩
  rw [History.submissions_append_transact, hquiet]
  rfl

end ControlPlane
