import ControlPlane.Proofs.Run.Alone
import ControlPlane.Proofs.Run.Endings
import ControlPlane.Proofs.Run.Operations

/-!
# Requests never go wrong internally

Every document of a reachable world has the form of the records of its
collection, for counting and the operations of transactions keep the forms.  So
the store never meets an operation that does not fit, and what is read is of
its kind.  What has been asked then explains an internal error only if the
policy could not say whether it has a prechecker.
-/

namespace ControlPlane

open Json Store

/-! ## Transactions on documents of the right forms -/

/-- A check that fails aborts. -/
theorem Store.isAborted_of_checkFrom {store : Store} {ops : List Op} {failure : StoreError}
    {index : Nat} (h : store.checkFrom index ops = .error failure) : failure.isAborted = true := by
  induction ops generalizing index with
  | nil => cases h
  | cons op rest ih =>
    rw [checkFrom] at h
    split at h
    · cases h
      rfl
    · exact ih h

namespace Store.Formed

variable {store : Store} {ops : List Op}

/-- Known operations keep the forms of documents or find a place occupied, if those that update
find their documents at first. -/
theorem applyFrom {index : Nat} (h : store.Formed) (hknown : ∀ op ∈ ops, ∃ type, op.Known type)
    (hpresent : ∀ op ∈ ops, (∃ updates, op.effect = .update updates) →
      (store.get? op.collection op.id).isSome = true) :
    (∃ after, store.applyFrom index ops = .ok after ∧ after.Formed) ∨
      ∃ failure, store.applyFrom index ops = .error failure ∧ failure.isAborted = true := by
  induction ops generalizing store index with
  | nil => exact .inl ⟨store, rfl, h⟩
  | cons op rest ih =>
    rw [List.forall_mem_cons] at hknown hpresent
    obtain ⟨⟨type, hfirst⟩, hknown⟩ := hknown
    obtain ⟨hfound, hpresent⟩ := hpresent
    have hcollection := hfirst.collection_eq
    have hform : ∀ document, store.get? op.collection op.id = some document →
        type.HasForm document := by
      rw [hcollection]
      exact h type op.id
    rw [Store.applyFrom]
    rcases hfirst.apply_eq hform hfound with hoccupied | ⟨document?, happly, hkept, hform'⟩
    · rw [hoccupied]
      exact .inr ⟨_, rfl, rfl⟩
    · rw [happly]
      apply ih
      · rw [hcollection]
        exact h.put type op.id hform'
      · exact hknown
      · -- A document that is to be updated later is still there.
        intro other hother hupdate
        have hsome := hpresent other hother hupdate
        rw [get?_put]
        split
        · next hplace =>
          rw [hplace.1, hplace.2] at hsome
          exact hkept hsome
        · exact hsome

/-- A transaction of known operations keeps the forms of documents or is aborted. -/
theorem transact (h : store.Formed) (hknown : ∀ op ∈ ops, ∃ type, op.Known type) :
    (∃ after, store.transact ops = .ok after ∧ after.Formed) ∨
      ∃ failure, store.transact ops = .error failure ∧ failure.isAborted = true := by
  rw [Store.transact]
  cases hcheck : store.checkFrom 0 ops with
  | error failure => exact .inr ⟨failure, rfl, isAborted_of_checkFrom hcheck⟩
  | ok _ =>
    have hassertions := checkFrom_eq_ok_iff.mp hcheck
    apply h.applyFrom hknown
    intro op hop hupdate
    obtain ⟨type, hop'⟩ := hknown op hop
    exact hop'.isSome_of_update hupdate (hassertions op hop)

end Store.Formed

/-! ## The answers of the store -/

/-- A call that keeps the forms of documents: it counts in a counter, or all its operations are
known. -/
def Call.Known : Call → Prop
  | .increment collection _ field => collection = Layout.sequence ∧ field = "counter"
  | .transact ops => ∀ op ∈ ops, ∃ type, op.Known type
  | _ => True

theorem StoreError.isInvalid_of_isAborted {failure : StoreError} (h : failure.isAborted = true) :
    failure.isInvalid = false := by
  cases failure with
  | aborted index collection id reason => rfl
  | _ => cases h

theorem Unavailable.isInvalid_eq {α : Type} {answer : Except StoreError α}
    (h : Unavailable answer) {failure : StoreError} (hfailure : answer = .error failure) :
    failure.isInvalid = false := by
  obtain ⟨message, rfl⟩ := h
  cases hfailure
  rfl

namespace Answers

variable {store after : Store}

theorem sound_get {collection id : String} {answer : (Call.get collection id).Answer}
    (h : Answers store (.get collection id) answer after) (hformed : store.Formed) :
    after.Formed ∧ Exchange.Sound ⟨.get collection id, answer⟩ := by
  obtain ⟨hanswer, rfl⟩ := h
  refine ⟨hformed, ?_, ?_⟩
  · intro failure hfailure
    cases answer with
    | ok document? => cases hfailure
    | error given =>
      obtain rfl := Option.some.inj hfailure
      exact (hanswer.resolve_left nofun).isInvalid_eq rfl
  · rintro type _ document ⟨⟩
    have hget := hanswer.resolve_right (fun ⟨_, hunavailable⟩ => nomatch hunavailable)
    exact (hformed type id document (Except.ok.inj hget).symm).isReadAs

theorem sound_increment {id : String}
    {answer : (Call.increment Layout.sequence id "counter").Answer}
    (h : Answers store (.increment Layout.sequence id "counter") answer after)
    (hformed : store.Formed) :
    after.Formed ∧ Exchange.Sound ⟨.increment Layout.sequence id "counter", answer⟩ := by
  obtain ⟨number, hnumber, hafter⟩ := hformed.increment id
  rcases h with hcount | ⟨hunavailable, rfl⟩
  · obtain rfl : answer = .ok number := (congrArg Prod.fst hcount).trans hnumber
    obtain rfl : after = _ := congrArg Prod.snd hcount
    exact ⟨hafter, nofun, nofun⟩
  · refine ⟨hformed, ?_, nofun⟩
    intro failure hfailure
    cases answer with
    | ok _ => cases hfailure
    | error given =>
      obtain rfl := Option.some.inj hfailure
      exact hunavailable.isInvalid_eq rfl

theorem sound_transact {ops : List Op} {answer : (Call.transact ops).Answer}
    (h : Answers store (.transact ops) answer after) (hformed : store.Formed)
    (hknown : ∀ op ∈ ops, ∃ type, op.Known type) :
    after.Formed ∧ Exchange.Sound ⟨.transact ops, answer⟩ := by
  have htransact := hformed.transact hknown
  rcases h with ⟨rfl, hcommit⟩ | ⟨⟨failure, rfl, hcause⟩, rfl⟩
  · rcases htransact with ⟨committed, hcommitted, hafter⟩ | ⟨failure, hfailure, -⟩
    · obtain rfl := Except.ok.inj (hcommitted.symm.trans hcommit)
      exact ⟨hafter, nofun, nofun⟩
    · cases hfailure.symm.trans hcommit
  · refine ⟨hformed, ?_, nofun⟩
    rintro _ ⟨⟩
    rcases hcause with hrefused | hunavailable
    · rcases htransact with ⟨committed, hcommitted, -⟩ | ⟨other, hother, haborted⟩
      · cases hcommitted.symm.trans hrefused
      · obtain rfl := Except.error.inj (hother.symm.trans hrefused)
        exact StoreError.isInvalid_of_isAborted haborted
    · exact hunavailable.isInvalid_eq rfl

/-- The store answers a known call soundly, and keeps the forms. -/
theorem sound {call : Call} {answer : call.Answer} (h : Answers store call answer after)
    (hformed : store.Formed) (hknown : call.Known) :
    after.Formed ∧ Exchange.Sound ⟨call, answer⟩ := by
  cases call with
  | get collection id => exact h.sound_get hformed
  | increment collection id field =>
    obtain ⟨rfl, rfl⟩ := hknown
    exact h.sound_increment hformed
  | transact ops => exact h.sound_transact hformed hknown
  | prechecker =>
    obtain rfl : after = store := h
    exact ⟨hformed, nofun, nofun⟩
  | precheck series constraints =>
    obtain rfl : after = store := h
    exact ⟨hformed, nofun, nofun⟩

end Answers

/-! ## In a run -/

variable {world later : World} {thread : Thread}

theorem Reachable.known_call (h : Reachable world) (hthread : thread ∈ world.threads) {call : Call}
    {next : call.Answer → Session (Except Error thread.task.Result)}
    (hrest : thread.rest = .ask call next) : call.Known := by
  have hdutiful := h.dutiful thread hthread
  have hlawful := (h.conducted thread hthread).conforms
  rw [Thread.Dutiful, hrest] at hdutiful
  rw [hrest] at hlawful
  cases call with
  | increment collection id field => exact hdutiful.1
  | transact ops => exact Submission.known hlawful.1
  | _ => trivial

/-- Every document has the form of the records of its collection. -/
theorem Reachable.formed (h : Reachable world) : world.store.Formed := by
  apply h.induct
  · exact Store.Formed.empty
  · intro world event later hreachable hformed hstep
    cases hstep with
    | exchange hthread hrest hanswer =>
      exact (hanswer.sound hformed
        (hreachable.known_call (List.mem_of_getElem? hthread) hrest)).1
    | _ => exact hformed

/-- All answers that the store has given are sound. -/
theorem Reachable.sound (h : Reachable world) (hthread : thread ∈ world.threads) :
    ∀ exchange ∈ thread.past, exchange.Sound := by
  obtain ⟨events, hrun⟩ := h
  intro exchange hmem
  obtain ⟨index, hindex⟩ := List.getElem?_of_mem hthread
  obtain ⟨past, before, after, found, left, hoccurs, -⟩ := hrun.exists_exchange_of_mem hindex hmem
  have hfound : Reachable found := ⟨before, hoccurs.earlier⟩
  cases hoccurs.step with
  | exchange hasking hrest hanswer =>
    exact (hanswer.sound hfound.formed
      (hfound.known_call (List.mem_of_getElem? hasking) hrest)).2

/-- A request ends in an internal error only if the policy could not say whether it has a
prechecker.  Every document is read as what it is, and the store meets no operation that does not
fit. -/
theorem never_internal (h : Reachable world) :
    (∀ thread ∈ world.threads, ∀ message,
      thread.rest = .done (.error (.internalError message)) →
        ∃ causes, (⟨.prechecker, .error causes⟩ : Exchange) ∈ thread.past) ∧
    (∀ (type : ResourceType) (id : String) (document : Value),
      world.store.get? type.collection id = some document → type.IsReadAs document) ∧
    ∀ thread ∈ world.threads, ∀ exchange ∈ thread.past, ∀ failure,
      exchange.failure? = some failure → failure.isInvalid = false := by
  refine ⟨?_, ?_, ?_⟩
  · intro thread hthread message hrest
    have hdutiful := h.dutiful thread hthread
    rw [Thread.Dutiful, hrest] at hdutiful
    have hfailed : Failed (fun later => thread.task.Lost later) thread.past
      (.internalError message) := hdutiful
    exact hfailed.explained.exists_prechecker (h.sound hthread) rfl
  · intro type id document hget
    exact (h.formed type id document hget).isReadAs
  · intro thread hthread exchange hmem
    exact (h.sound hthread exchange hmem).valid

namespace World

/-- The founded world, after the environment has been given constraints. -/
def configured : World :=
  founded.perform none (.request usual (.setEnvironmentConstraints { cpuCores := some 4 }))

/-- The configured world, after a machine has been asked for under a policy that is out of reach. -/
def disconnected : World :=
  configured.perform (some (.broken ["offline"])) (.request usual (.addMachine plain))

theorem reachable_disconnected : Reachable disconnected := by
  unfold disconnected configured perform
  apply Reachable.carry
  · exact reachable_founded.carry _ none _ (permits_founded _)
  · exact (permits_founded _).carry none _ _

/-- The request has ended in an internal error. -/
theorem exists_failed_disconnected :
    ∃ thread ∈ disconnected.threads, ∃ message,
      thread.rest = .done (.error (.internalError message)) := by
  have hends : ((Task.request usual (.addMachine plain)).procedure.run.converse
      (some (.broken ["offline"])) (fun _ => false) configured.store []).1.endsWith
        (fun result => match result with
          | .error error => error.isInternal
          | .ok _ => false) = true := by decide +kernel
  obtain ⟨past, result, hthread, hfailed⟩ := exists_thread_of_endsWith _ _ _ _ hends
  cases result with
  | ok _ => cases hfailed
  | error error =>
    cases error with
    | internalError message => exact ⟨_, List.mem_of_getElem? hthread, message, rfl⟩
    | _ => cases hfailed

end World

/-- A policy that cannot say whether it has a prechecker makes a request for a machine end in an
internal error; the constraints of the environment, which have been replaced, are read all the
same. -/
theorem never_internal_broken :
    ∃ (world : World) (thread : Thread) (message : String) (causes : Causes) (document : Value),
      Reachable world ∧ thread ∈ world.threads ∧
        thread.rest = .done (.error (.internalError message)) ∧
        (⟨.prechecker, .error causes⟩ : Exchange) ∈ thread.past ∧
        world.store.get? ResourceType.constraints.collection Layout.environmentKey =
          some document ∧ ResourceType.constraints.IsReadAs document ∧
        ∀ exchange ∈ thread.past, ∀ failure,
          exchange.failure? = some failure → failure.isInvalid = false := by
  have hsome : (World.disconnected.store.get? ResourceType.constraints.collection
      Layout.environmentKey).isSome = true := by decide +kernel
  obtain ⟨document, hdocument⟩ := Option.isSome_iff_exists.mp hsome
  obtain ⟨thread, hthread, message, hrest⟩ := World.exists_failed_disconnected
  obtain ⟨hinternal, hreads, hvalid⟩ := never_internal World.reachable_disconnected
  obtain ⟨causes, hcauses⟩ := hinternal thread hthread message hrest
  exact ⟨World.disconnected, thread, message, causes, document, World.reachable_disconnected,
    hthread, hrest, hcauses, hdocument, hreads _ _ _ hdocument, hvalid thread hthread⟩

end ControlPlane
