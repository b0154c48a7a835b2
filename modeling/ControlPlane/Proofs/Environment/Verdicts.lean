import ControlPlane.Proofs.Environment.Attempts

/-!
# Whether the environment is dead or a race is lost

A batch that fails to be committed says why.  If it says that the environment is
not alive, the environment is never alive again; and if it says that the
transaction was aborted, the environment was alive and the message names the
operation that stood in the way.
-/

namespace ControlPlane

open Json Store

/-- The store was unavailable to the call. -/
def Exchange.Unanswered : Exchange → Prop
  | ⟨.get _ _, answer⟩ => Unavailable answer
  | ⟨.increment _ _ _, answer⟩ => Unavailable answer
  | ⟨.transact _, answer⟩ => Unavailable answer
  | _ => False

namespace StoreError

theorem toError_ne_environmentNotAlive (failure : StoreError) :
    failure.toError ≠ .environmentNotAlive := by
  cases failure <;> nofun

theorem eq_aborted_of_toError {failure : StoreError} {message : String}
    (h : failure.toError = .transactionAborted message) :
    ∃ index collection id reason, failure = .aborted index collection id reason ∧
      message = failure.message := by
  cases failure with
  | aborted index collection id reason =>
    exact ⟨index, collection, id, reason, rfl, (Error.transactionAborted.inj h).symm⟩
  | invalidOp index collection id cause => cases h
  | unavailable cause => cases h

end StoreError

section CheckAlive

variable {store : Store} {environment? : Option Environment}
  (henvironment : store.HasEnvironment environment?) (halive : store.life? = some .alive)

include henvironment halive

/-- Nothing refutes that an environment is alive that is. -/
theorem Store.HasEnvironment.not_refutes (reason : AbortReason) :
    ¬store.Refutes Environment.checkAliveOp reason := by
  rw [henvironment.life?_eq] at halive
  obtain ⟨environment, rfl, hlife⟩ := Option.map_eq_some_iff.mp halive
  have hholds := Environment.failure?_aliveAssertion environment
  rw [if_pos hlife] at hholds
  change ¬Assertion.Refuted (store.get? Layout.environments Layout.environmentKey)
    Environment.aliveAssertion reason
  rw [henvironment]
  rcases Environment.aliveAssertion.failure?_cases (some environment.toValue) with
    ⟨-, hnot⟩ | ⟨_, hfails, -⟩
  · exact hnot reason
  · cases hholds.symm.trans hfails

/-- The check of an environment that is alive stands in nobody's way. -/
theorem Store.Aborts.exists_eq_cons {ops before : List Op} {op : Op} {reason : AbortReason}
    (h : store.Aborts (Environment.checkAliveOp :: ops) before op reason) :
    ∃ earlier, before = Environment.checkAliveOp :: earlier := by
  obtain ⟨after, heq⟩ := h.eq_append
  cases before with
  | cons first earlier => exact ⟨earlier, congrArg (· :: earlier) (List.cons.inj heq).1.symm⟩
  | nil =>
    exfalso
    obtain rfl := (List.cons.inj heq).1
    cases h with
    | refuted hfirst => exact henvironment.not_refutes halive reason hfirst.refutes
    | occupied _ hfirst =>
      have hblocks := hfirst.blocks
      change Effect.Blocked (store.documentAfter [] _ _) .nothing .occupied at hblocks
      generalize store.documentAfter [] _ _ = document at hblocks
      cases hblocks

end CheckAlive

namespace Moment.Genuine

variable {moment : Moment} {result : Except Error Environment} {ops : List Op}

/-- What is told of the environment is what there is, unless the store was unavailable. -/
theorem tells_cases (h : moment.Genuine) (htells : moment.Tells result) :
    (∃ message, moment.exchange.Unanswered ∧ result = .error (.serviceUnavailable message)) ∨
      (∃ environment, result = .ok environment ∧
        moment.before.life? = some environment.life) ∨
      result = .error (.objectNotFound .environment (.byGlobalKey Layout.environmentKey)) ∧
        moment.before.life? = none := by
  obtain ⟨before, exchange, after⟩ := moment
  obtain ⟨answer, rfl, rfl⟩ := htells
  obtain ⟨environment?, henvironment⟩ := h.environment
  rcases h.answers.1 with hanswer | ⟨message, hmessage⟩
  · change answer = .ok (before.get? _ _) at hanswer
    rw [henvironment] at hanswer
    subst hanswer
    have hlife := henvironment.life?_eq
    cases environment? with
    | none => exact .inr (.inr ⟨rfl, hlife⟩)
    | some environment =>
      refine .inr (.inl ⟨environment, ?_, hlife⟩)
      change (Environment.decode environment.toValue).mapError _ = _
      rw [Environment.decode_toValue]
      rfl
  · change answer = _ at hmessage
    subst hmessage
    exact .inl ⟨message, ⟨message, rfl⟩, rfl⟩

theorem life?_of_tells (h : moment.Genuine) {environment : Environment}
    (htells : moment.Tells (.ok environment)) :
    moment.before.life? = some environment.life := by
  rcases h.tells_cases htells with ⟨_, -, hno⟩ | ⟨found, hfound, hlife⟩ | ⟨hno, -⟩
  · cases hno
  · rw [Except.ok.inj hfound]
    exact hlife
  · cases hno

theorem error_of_tells (h : moment.Genuine) {error : Error}
    (htells : moment.Tells (.error error)) :
    (∃ message, error = .serviceUnavailable message) ∨
      ∃ type lookup, error = .objectNotFound type lookup := by
  rcases h.tells_cases htells with ⟨message, -, herror⟩ | ⟨_, hno, -⟩ | ⟨herror, -⟩
  · exact .inl ⟨message, Except.error.inj herror⟩
  · cases hno
  · exact .inr ⟨_, _, Except.error.inj herror⟩

theorem idle_of_tells (h : moment.Genuine) (htells : moment.Tells result) : moment.Idle := by
  obtain ⟨answer, hexchange, -⟩ := htells
  exact idle_of_get h.answers.serves (congrArg Exchange.call hexchange)

theorem applies (h : moment.Genuine) (hexchange : moment.exchange = ⟨.transact ops, .ok ()⟩) :
    moment.Applies ops := by
  obtain ⟨before, exchange, after⟩ := moment
  subst hexchange
  rcases h.answers with ⟨-, hcommit⟩ | ⟨⟨failure, hfailure, -⟩, -⟩
  · exact ⟨rfl, hcommit⟩
  · cases hfailure

theorem transact_error (h : moment.Genuine) {failure : StoreError}
    (hexchange : moment.exchange = ⟨.transact ops, .error failure⟩) :
    moment.Idle ∧ (moment.before.transact ops = .error failure ∨
      ∃ message, failure = .unavailable message) := by
  obtain ⟨before, exchange, after⟩ := moment
  subst hexchange
  rcases h.answers with ⟨hok, -⟩ | ⟨⟨_, hfailure, hcause⟩, hidle⟩
  · cases hok
  · cases hfailure
    refine ⟨hidle, hcause.imp_right ?_⟩
    rintro ⟨message, hmessage⟩
    exact ⟨message, Except.error.inj hmessage⟩

end Moment.Genuine

/-- The transaction of a batch is the second of its calls, and the batch is done if it takes place;
otherwise it is judged by what is told of the environment then. -/
theorem Committing.cases_of_submits {ops : List Op} {moments : List Moment} {moment : Moment}
    {rest : Session (Except Error Unit)} {answer : Except StoreError Unit}
    (h : Committing ops moments rest) (hmoment : moment ∈ moments)
    (hexchange : moment.exchange = ⟨.transact (Environment.checkAliveOp :: ops), answer⟩) :
    ∃ first environment, first.Tells (.ok environment) ∧ environment.life = .alive ∧
      (answer = .ok () ∧ moments = [first, moment] ∧ rest = .done (.ok ()) ∨
        ∃ failure, answer = .error failure ∧
          (moments = [first, moment] ∧ (∀ result, rest ≠ .done result) ∨
            ∃ reread result, moments = [first, moment, reread] ∧ reread.Tells result ∧
              rest = .done (.error (Environment.verdict failure result)))) := by
  have hother : ∀ {other : Moment} {result}, other.Tells result → moment ≠ other := by
    rintro other result ⟨_, hget, -⟩ rfl
    cases hget.symm.trans hexchange
  have hsecond : ∀ {first asked : Moment} {result}, first.Tells result →
      moment ∈ [first, asked] → moment = asked := by
    intro first asked result hfirst hmem
    exact List.mem_singleton.mp ((List.mem_cons.mp hmem).resolve_left (hother hfirst))
  cases h with
  | begun => cases hmoment
  | unread hfirst => exact absurd (List.mem_singleton.mp hmoment) (hother hfirst)
  | late hfirst _ => exact absurd (List.mem_singleton.mp hmoment) (hother hfirst)
  | checked hfirst _ => exact absurd (List.mem_singleton.mp hmoment) (hother hfirst)
  | committed hfirst halive hasked =>
    obtain rfl := hsecond hfirst hmoment
    cases hasked.symm.trans hexchange
    exact ⟨_, _, hfirst, halive, .inl ⟨rfl, rfl, rfl⟩⟩
  | failed hfirst halive hasked =>
    obtain rfl := hsecond hfirst hmoment
    cases hasked.symm.trans hexchange
    exact ⟨_, _, hfirst, halive, .inr ⟨_, rfl, .inl ⟨rfl, nofun⟩⟩⟩
  | @judged first asked reread _ _ _ hfirst halive hasked hreread =>
    have hmem : moment ∈ [first, asked] := by
      simpa [hother hreread] using hmoment
    obtain rfl := hsecond hfirst hmem
    cases hasked.symm.trans hexchange
    exact ⟨_, _, hfirst, halive, .inr ⟨_, rfl, .inr ⟨reread, _, rfl, hreread, rfl⟩⟩⟩

namespace Attempt.Sound

variable {store : Store} {ops : List Op} {moments : List Moment}
  {rest : Session (Except Error Unit)}

/-- A batch is reported to be committed just where it has been applied. -/
theorem done_iff_applies (h : Attempt.Sound store ⟨ops, moments, rest⟩) :
    rest = .done (.ok ()) ↔
      ∃ moment ∈ moments, moment.Applies (Environment.checkAliveOp :: ops) := by
  have hcommitting : Committing ops moments rest := h.converses.committing
  constructor
  · rintro rfl
    have hgenuine := h.genuine
    cases hcommitting with
    | committed _ _ hasked => exact ⟨_, by simp, (hgenuine _ (by simp)).applies hasked⟩
  · rintro ⟨moment, hmoment, hexchange, -⟩
    obtain ⟨first, environment, -, -, ⟨-, -, hrest⟩ | ⟨failure, hfailure, -⟩⟩ :=
      hcommitting.cases_of_submits hmoment hexchange
    · exact hrest
    · cases hfailure

/-- A batch that fails has changed nothing. -/
theorem idle_of_error {error : Error}
    (h : Attempt.Sound store ⟨ops, moments, .done (.error error)⟩) :
    ∀ moment ∈ moments, moment.Idle := by
  have hgenuine := h.genuine
  have hcommitting : Committing ops moments (.done (.error error)) := h.converses.committing
  cases hcommitting with
  | unread hfirst =>
    rw [List.forall_mem_singleton]
    exact (hgenuine _ (by simp)).idle_of_tells hfirst
  | late hfirst _ =>
    rw [List.forall_mem_singleton]
    exact (hgenuine _ (by simp)).idle_of_tells hfirst
  | judged hfirst _ hasked hreread =>
    rw [List.forall_mem_cons, List.forall_mem_cons, List.forall_mem_singleton]
    exact ⟨(hgenuine _ (by simp)).idle_of_tells hfirst,
      ((hgenuine _ (by simp)).transact_error hasked).1,
      (hgenuine _ (by simp)).idle_of_tells hreread⟩

section Judged

variable {first asked reread : Moment} {environment : Environment}
  {result : Except Error Environment}

/-- Once the environment has been found, it exists. -/
theorem founded (h : Attempt.Sound store ⟨ops, first :: moments, rest⟩)
    (hfirst : first.Tells (.ok environment)) :
    ∀ moment ∈ moments, moment.before.life?.isSome = true := by
  intro moment hmoment
  have hages := (List.pairwise_cons.mp h.ordered).1 moment hmoment
  apply hages.founded
  rw [(h.genuine first List.mem_cons_self).life?_of_tells hfirst]
  rfl

/-- After the transaction the environment is not younger than before. -/
theorem ages_asked (h : Attempt.Sound store ⟨ops, [first, asked, reread], rest⟩) :
    asked.before.Ages reread.before := by
  have hordered := (List.pairwise_cons.mp h.ordered).2
  exact (List.pairwise_cons.mp hordered).1 reread (List.mem_singleton_self reread)

/-- A failure is judged by whether the environment is alive when it is asked for again. -/
theorem verdict_cases (h : Attempt.Sound store ⟨ops, [first, asked, reread], rest⟩)
    (hfirst : first.Tells (.ok environment)) (hreread : reread.Tells result)
    (failure : StoreError) :
    (∃ message, reread.exchange.Unanswered ∧
        Environment.verdict failure result = .serviceUnavailable message) ∨
      reread.before.life? = some .alive ∧
        Environment.verdict failure result = failure.toError ∨
      reread.before.IsDead ∧ Environment.verdict failure result = .environmentNotAlive := by
  have hfounded := h.founded hfirst reread (by simp)
  rcases (h.genuine reread (by simp)).tells_cases hreread with
    ⟨message, hunanswered, rfl⟩ | ⟨found, rfl, hlife⟩ | ⟨-, hnone⟩
  · exact .inl ⟨message, hunanswered, rfl⟩
  · right
    by_cases halive : found.life = .alive
    · exact .inl ⟨halive ▸ hlife, if_pos halive⟩
    · exact .inr ⟨⟨_, hlife, halive⟩, if_neg halive⟩
  · rw [hnone] at hfounded
    cases hfounded

end Judged

/-- If a batch is told that the environment is not alive, that is so. -/
theorem isDead_of_notAlive (h : Attempt.Sound store ⟨ops, moments, rest⟩)
    (hrest : rest = .done (.error .environmentNotAlive)) : store.IsDead := by
  have hcommitting : Committing ops moments rest := h.converses.committing
  cases hcommitting with
  | unread hfirst =>
    cases hrest
    rcases (h.genuine _ (by simp)).error_of_tells hfirst with ⟨_, hno⟩ | ⟨_, _, hno⟩
    · cases hno
    · cases hno
  | @late first _ hfirst hdead =>
    apply (h.past first (by simp)).dead
    exact ⟨_, (h.genuine first (by simp)).life?_of_tells hfirst, hdead⟩
  | @judged first asked reread _ failure _ hfirst halive hasked hreread =>
    have hverdict := Except.error.inj (Session.done.inj hrest)
    apply (h.past reread (by simp)).dead
    rcases h.verdict_cases hfirst hreread failure with
      ⟨_, -, hunavailable⟩ | ⟨-, hfailure⟩ | ⟨hdead, -⟩
    · cases hunavailable.symm.trans hverdict
    · exact absurd (hfailure.symm.trans hverdict) failure.toError_ne_environmentNotAlive
    · exact hdead
  | _ => cases hrest

/-- If the environment is not alive when the transaction of a batch is made, the batch is told so,
unless the store is unavailable when the environment is asked for again. -/
theorem notAlive_of_dead (h : Attempt.Sound store ⟨ops, moments, rest⟩) {moment : Moment}
    (hmoment : moment ∈ moments) {answer : Except StoreError Unit}
    (hexchange : moment.exchange = ⟨.transact (Environment.checkAliveOp :: ops), answer⟩)
    (hdead : moment.before.life? ≠ some .alive) {result : Except Error Unit}
    (hrest : rest = .done result) :
    result = .error .environmentNotAlive ∨
      (∃ message, result = .error (.serviceUnavailable message)) ∧
        ∃ other ∈ moments, other.exchange.Unanswered := by
  have hcommitting : Committing ops moments rest := h.converses.committing
  obtain ⟨first, environment, hfirst, -, ⟨rfl, -, -⟩ | ⟨failure, rfl, ⟨-, hpending⟩ |
    ⟨reread, told, rfl, hreread, rfl⟩⟩⟩ := hcommitting.cases_of_submits hmoment hexchange
  · have hgenuine := h.genuine moment hmoment
    obtain ⟨environment?, henvironment⟩ := hgenuine.environment
    obtain ⟨found, rfl, halive, -⟩ :=
      henvironment.checkAlive h.apart (hgenuine.applies hexchange).2
    exact absurd (henvironment.life?_eq.trans (congrArg some halive)) hdead
  · exact absurd hrest (hpending result)
  · have hreread' := h.ages_asked.dead
      (isDead_of_ne_alive (h.founded hfirst moment (by simp)) hdead)
    obtain rfl := Session.done.inj hrest
    rcases h.verdict_cases hfirst hreread failure with
      ⟨message, hunanswered, hverdict⟩ | ⟨halive, -⟩ | ⟨-, hverdict⟩
    · exact .inr ⟨⟨message, congrArg _ hverdict⟩, reread, by simp, hunanswered⟩
    · obtain ⟨life, hlife, hnot⟩ := hreread'
      exact absurd (Option.some.inj (hlife.symm.trans halive)) hnot
    · exact .inl (congrArg _ hverdict)

/-- If a batch is told that its transaction was aborted, the environment was alive and an operation
of the batch stood in the way. -/
theorem exists_aborts (h : Attempt.Sound store ⟨ops, moments, rest⟩) {message : String}
    (hrest : rest = .done (.error (.transactionAborted message))) :
    ∃ first asked reread earlier op reason, moments = [first, asked, reread] ∧
      asked.before.Aborts (Environment.checkAliveOp :: ops) (Environment.checkAliveOp :: earlier)
        op reason ∧
      message = (StoreError.aborted (earlier.length + 1) op.collection op.id reason).message ∧
      reread.exchange.call = .get Layout.environments Layout.environmentKey ∧
      reread.before.life? = some .alive := by
  have hcommitting : Committing ops moments rest := h.converses.committing
  cases hcommitting with
  | unread hfirst =>
    cases hrest
    rcases (h.genuine _ (by simp)).error_of_tells hfirst with ⟨_, hno⟩ | ⟨_, _, hno⟩
    · cases hno
    · cases hno
  | @judged first asked reread _ failure _ hfirst halive hasked hreread =>
    have hverdict := Except.error.inj (Session.done.inj hrest)
    rcases h.verdict_cases hfirst hreread failure with
      ⟨_, -, hunavailable⟩ | ⟨hliving, hfailure⟩ | ⟨-, hdead⟩
    · cases hunavailable.symm.trans hverdict
    · have hgenuine := h.genuine asked (by simp)
      obtain ⟨environment?, henvironment⟩ := hgenuine.environment
      have halive := h.ages_asked.alive (h.founded hfirst asked (by simp)) hliving
      obtain ⟨index, collection, id, reason, rfl, rfl⟩ :=
        StoreError.eq_aborted_of_toError (hfailure.symm.trans hverdict)
      rcases (hgenuine.transact_error hasked).2 with hfailed | ⟨_, hno⟩
      · obtain ⟨before, op, rfl, rfl, rfl, haborts⟩ := exists_aborts hgenuine.objects hfailed
        obtain ⟨earlier, rfl⟩ := haborts.exists_eq_cons henvironment halive
        obtain ⟨_, hget, -⟩ := hreread
        exact ⟨first, asked, reread, earlier, op, reason, rfl, haborts, rfl,
          congrArg Exchange.call hget, hliving⟩
      · cases hno
    · cases hdead.symm.trans hverdict
  | _ => cases hrest

end Attempt.Sound

/-- In any run, whatever fails, a batch that leaves the environment alone is said to be committed
just where it has been applied, and has changed nothing if it fails.  If it is told that the
environment is not alive, this is so and remains so.  It is told so if the environment is not alive
when its transaction is made, unless the store is unavailable when the environment is asked for
again.  If it is told that its transaction was aborted, the environment was alive when it was asked
for again, and the message names the operation of the batch that the transaction was aborted by. -/
theorem commit_tells_death_from_races {scene : Scene} (hreachable : scene.Reachable)
    {attempt : Attempt} (hattempt : attempt ∈ scene.attempts) :
    (attempt.rest = .done (.ok ()) ↔
      ∃ moment ∈ attempt.moments,
        moment.Applies (Environment.checkAliveOp :: attempt.ops)) ∧
    (∀ error, attempt.rest = .done (.error error) → ∀ moment ∈ attempt.moments, moment.Idle) ∧
    (attempt.rest = .done (.error .environmentNotAlive) →
      ∀ later, scene.Run later → later.world.store.IsDead) ∧
    (∀ moment ∈ attempt.moments, ∀ answer,
      moment.exchange = ⟨.transact (Environment.checkAliveOp :: attempt.ops), answer⟩ →
      moment.before.life? ≠ some .alive → ∀ result, attempt.rest = .done result →
        result = .error .environmentNotAlive ∨
          (∃ message, result = .error (.serviceUnavailable message)) ∧
            ∃ other ∈ attempt.moments, other.exchange.Unanswered) ∧
    ∀ message, attempt.rest = .done (.error (.transactionAborted message)) →
      ∃ first asked reread earlier op reason, attempt.moments = [first, asked, reread] ∧
        asked.before.Aborts (Environment.checkAliveOp :: attempt.ops)
          (Environment.checkAliveOp :: earlier) op reason ∧
        message = (StoreError.aborted (earlier.length + 1) op.collection op.id reason).message ∧
        reread.exchange.call = .get Layout.environments Layout.environmentKey ∧
        reread.before.life? = some .alive := by
  obtain ⟨ops, moments, rest⟩ := attempt
  have hsound := hreachable.sound.attempts _ hattempt
  refine ⟨hsound.done_iff_applies, ?_, ?_, ?_, ?_⟩
  · rintro error rfl
    exact hsound.idle_of_error
  · intro hrest later hrun
    exact (hreachable.sound.run hrun).2.dead (hsound.isDead_of_notAlive hrest)
  · intro moment hmoment answer hexchange hdead result hrest
    exact hsound.notAlive_of_dead hmoment hexchange hdead hrest
  · intro message hrest
    exact hsound.exists_aborts hrest

/-- A batch that inserts one document twice is aborted by its second insert, in the founded world.
Another one is overtaken by the end of the environment, and is told that it is not alive. -/
theorem commit_tells_death_from_races_founded :
    let insert := Op.insert Layout.statuses "x" (.object [])
    (∃ (scene : Scene) (attempt : Attempt), scene.Reachable ∧ attempt ∈ scene.attempts ∧
      attempt.ops = [insert, insert] ∧
      attempt.rest = .done (.error (.transactionAborted
        "transaction aborted: op 2 on statuses/x: doc_exists")) ∧
      ∃ reread ∈ attempt.moments, reread.before.life? = some .alive) ∧
    ∃ (scene : Scene) (attempt : Attempt), scene.Reachable ∧ attempt ∈ scene.attempts ∧
      attempt.ops = [insert] ∧ attempt.rest = .done (.error .environmentNotAlive) ∧
      scene.world.store.IsDead := by
  intro insert
  constructor
  · have hends : ((commit [insert, insert]).run.converse none (fun _ => false)
        World.founded.store []).1.endsWith (fun found => found = .error (.transactionAborted
          "transaction aborted: op 2 on statuses/x: doc_exists")) = true := by
      decide +kernel
    obtain ⟨scene, attempt, hreachable, hattempt, hops, hrest⟩ :=
      Scene.exists_done World.reachable_founded (by decide) hends
    obtain ⟨-, -, -, -, haborted⟩ := commit_tells_death_from_races hreachable hattempt
    obtain ⟨_, _, reread, _, _, _, hmoments, -, -, -, halive⟩ := haborted _ hrest
    exact ⟨scene, attempt, hreachable, hattempt, hops, hrest, reread, by simp [hmoments], halive⟩
  · have hends :
        let paused := (commit [insert]).run.converse none Call.isTransact World.founded.store []
        let later := World.perform { World.founded with store := paused.2.1 } none
          (.request World.usual .destroyEnvironment)
        (paused.1.converse none (fun _ => false) later.store paused.2.2).1.endsWith
          (fun found => found = .error .environmentNotAlive) = true := by
      decide +kernel
    obtain ⟨scene, attempt, hreachable, hattempt, hops, hrest⟩ :=
      Scene.exists_done_of_overtaken World.reachable_founded (by decide) Call.isTransact
        (World.permits_founded .destroyEnvironment) hends
    obtain ⟨-, -, hdead, -⟩ := commit_tells_death_from_races hreachable hattempt
    exact ⟨scene, attempt, hreachable, hattempt, hops, hrest, hdead hrest _ .refl⟩

end ControlPlane
