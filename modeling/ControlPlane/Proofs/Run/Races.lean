import ControlPlane.Proofs.Run.Alone
import ControlPlane.Proofs.Run.Conflicts

/-!
# Only lost races abort

A request reports an aborted transaction only if another thread has come
between: it has changed the lists of state servers after they were read, or it
has added the machine that was found to be missing.
-/

namespace ControlPlane

open Json Store

variable {world later found left : World} {events before after : List Event} {index : Nat}
  {thread : Thread} {task : Task} {past : History} {ops : List Op} {failure : StoreError}

/-- Between two worlds the transaction of another thread has changed a document. -/
inductive Overtaken (index : Nat) (collection id : String) (earlier later : World)
    (events : List Event) : Prop where
  | intro {before after : List Event} {found left : World} (other : Nat) (ops : List Op)
      (hother : other ≠ index)
      (hevents : events = before ++ .exchanged other ⟨.transact ops, .ok ()⟩ :: after)
      (hearlier : Run earlier before found)
      (hstep : Step found (.exchanged other ⟨.transact ops, .ok ()⟩) left)
      (hlater : Run left after later)
      (hbefore : found.store.get? collection id = earlier.store.get? collection id)
      (hafter : left.store.get? collection id ≠ earlier.store.get? collection id)

/-- A thread has read the lists of state servers, and another one has changed them before its
transaction was refused. -/
inductive RacedForServers (index : Nat) (events : List Event) (world : World) : Prop where
  | intro {before between after : List Event} {start read asked refused : World}
      (document : Value) (ops : List Op) (failure : StoreError)
      (hevents : events = before ++
        .exchanged index ⟨.get Layout.stateServers Layout.environmentKey,
          .ok (some document)⟩ ::
            (between ++ .exchanged index ⟨.transact ops, .error failure⟩ :: after))
      (hbefore : Run .initial before start)
      (hread : Step start (.exchanged index ⟨.get Layout.stateServers Layout.environmentKey,
        .ok (some document)⟩) read)
      (hbetween : Run read between asked)
      (hrefused : Step asked (.exchanged index ⟨.transact ops, .error failure⟩) refused)
      (hafter : Run refused after world)
      (hovertaken : Overtaken index Layout.stateServers Layout.environmentKey read asked between)

/-- The transaction of a thread was refused where there was no such machine, and another thread
has added the machine before it was read. -/
inductive RacedForMachine (index : Nat) (id : String) (events : List Event) (world : World) :
    Prop where
  | intro {before between after : List Event} {asked refused found read : World}
      (document : Value) (ops : List Op) (failure : StoreError)
      (hevents : events = before ++ .exchanged index ⟨.transact ops, .error failure⟩ ::
        (between ++ .exchanged index ⟨.get Layout.machines id, .ok (some document)⟩ :: after))
      (hbefore : Run .initial before asked)
      (hmissing : asked.store.get? Layout.machines id = none)
      (hrefused : Step asked (.exchanged index ⟨.transact ops, .error failure⟩) refused)
      (hbetween : Run refused between found)
      (hread : Step found (.exchanged index ⟨.get Layout.machines id, .ok (some document)⟩) read)
      (hafter : Run read after world)
      (hovertaken : Overtaken index Layout.machines id refused found between)

/-- The transaction of another thread has taken place after an exchange of the thread. -/
def Interfered (index : Nat) (events : List Event) : Prop :=
  ∃ before exchange after other ops, events = before ++ .exchanged index exchange :: after ∧
    other ≠ index ∧ Event.exchanged other ⟨.transact ops, .ok ()⟩ ∈ after

theorem Overtaken.exists_event {collection id : String}
    (h : Overtaken index collection id world later events) :
    ∃ other ops, other ≠ index ∧ Event.exchanged other ⟨.transact ops, .ok ()⟩ ∈ events := by
  cases h with
  | intro other ops hother hevents _ _ _ _ _ =>
    refine ⟨other, ops, hother, ?_⟩
    rw [hevents]
    exact List.mem_append_right _ List.mem_cons_self

theorem RacedForServers.interfered (h : RacedForServers index events world) :
    Interfered index events := by
  cases h with
  | intro document ops failure hevents _ _ _ _ _ hovertaken =>
    obtain ⟨other, ops, hother, hmem⟩ := hovertaken.exists_event
    exact ⟨_, _, _, other, ops, hevents, hother, List.mem_append_left _ hmem⟩

theorem RacedForMachine.interfered {id : String} (h : RacedForMachine index id events world) :
    Interfered index events := by
  cases h with
  | intro document ops failure hevents _ _ _ _ _ _ hovertaken =>
    obtain ⟨other, ops, hother, hmem⟩ := hovertaken.exists_event
    exact ⟨_, _, _, other, ops, hevents, hother, List.mem_append_left _ hmem⟩

/-- A document that has changed has been changed by the transaction of another thread, unless it
was one's own. -/
theorem Run.overtaken (hrun : Run world events later) (hreachable : Reachable world)
    {collection id : String} (hcollection : collection ≠ Layout.sequence)
    (hown : ∀ ops, Event.exchanged index ⟨.transact ops, .ok ()⟩ ∉ events)
    (hchange : world.store.get? collection id ≠ later.store.get? collection id) :
    Overtaken index collection id world later events := by
  obtain ⟨before, event, after, found, left, hearlier, hstep, hlater, rfl, hbefore, hafter⟩ :=
    hrun.exists_change (·.store.get? collection id) hchange
  rcases hstep.unchanged_or_commit (hreachable.run hearlier).conducted with
    hsame | ⟨other, thread, ops, -, rfl, -, -⟩
  · exact absurd ((hsame collection hcollection id).trans hbefore) hafter
  · refine .intro other ops ?_ rfl hearlier hstep hlater hbefore hafter
    rintro rfl
    exact hown ops (by simp)

/-- A thread none of whose transactions took place has none in the events either. -/
theorem Run.notMem_of_refused (hrun : Run .initial events world)
    (hthread : world.threads[index]? = some thread)
    (hrefused : ∀ submission ∈ thread.past.submissions, submission.2 ≠ .ok ()) (ops : List Op) :
    Event.exchanged index ⟨.transact ops, .ok ()⟩ ∉ events := by
  intro hmem
  have hexchange : (⟨.transact ops, .ok ()⟩ : Exchange) ∈ thread.past := by
    rw [← World.pastOf_eq hthread, pastOf_initial hrun]
    exact List.mem_filterMap.mpr ⟨_, hmem, if_pos rfl⟩
  exact hrefused (ops, .ok ()) (List.mem_filterMap.mpr ⟨_, hexchange, rfl⟩) rfl

/-- What a thread asks next is an exchange that its task may have. -/
theorem Step.asks {exchange : Exchange} (h : Step found (.exchanged index exchange) left)
    (hthread : found.threads[index]? = some thread) :
    ∃ next, thread.rest = .ask exchange.call next := by
  cases h with
  | @exchange _ other _ next _ _ hother hrest _ =>
    obtain rfl : thread = other := Option.some.inj (hthread.symm.trans hother)
    exact ⟨next, hrest⟩

namespace Occurs

/-- A transaction that occurs is one that the task may submit, and its only one. -/
theorem submits {answer : Except StoreError Unit}
    (h : Occurs .initial later index task past ⟨.transact ops, answer⟩ before after found left) :
    Submission task.limit past ops ∧ past.submissions = [] ∧ task.Admits past ops := by
  have hreachable : Reachable found := ⟨before, h.earlier⟩
  obtain ⟨thread, hthread, rfl, rfl⟩ := h.thread
  obtain ⟨next, hrest⟩ := h.step.asks hthread
  have hmem := List.mem_of_getElem? hthread
  have hconforms := (hreachable.conducted thread hmem).conforms
  have horderly := hreachable.orderly thread hmem
  rw [hrest] at hconforms
  rw [Thread.Orderly, hrest] at horderly
  exact ⟨hconforms.1, horderly.1⟩

/-- An exchange after one that occurs occurs later. -/
theorem exists_exchange {exchange exchange' : Exchange} {between rest : History}
    (h : Occurs world later index task past exchange before after found left)
    (hthread : later.threads[index]? = some thread)
    (hpast : thread.past = past ++ exchange :: (between ++ exchange' :: rest)) :
    ∃ before' after' found' left',
      Occurs left later index thread.task (past ++ exchange :: between) exchange' before' after'
          found' left' ∧ after = before' ++ .exchanged index exchange' :: after' := by
  have hsplit : thread.past = (past ++ exchange :: between) ++ exchange' :: rest := by
    rw [hpast, List.append_assoc, List.cons_append]
  apply h.later.exists_exchange hthread hsplit
  intro asked hasked
  obtain ⟨asking, hasking, -, rfl⟩ := h.thread
  have hleft := h.step.pastOf_eq index
  rw [World.pastOf_eq hasked, World.pastOf_eq hasking, Event.exchange?, if_pos rfl] at hleft
  rw [hleft]
  simp

end Occurs

/-- Where an environment has been found and is found alive later, it is alive. -/
theorem Reachable.life?_eq_alive (h : Reachable world) (hthread : thread ∈ world.threads)
    {environment : Environment}
    (hfound : thread.past.Found Environment.decode Layout.environments Layout.environmentKey
      environment) (hrun : Run world events later) (hlater : later.store.life? = some .alive) :
    world.store.life? = some .alive := by
  obtain ⟨life, hlife⟩ := Option.isSome_iff_exists.mp (h.isSome_life?_of_found hthread hfound)
  by_cases halive : life = .alive
  · rw [hlife, halive]
  · obtain ⟨⟨life', hlife', hnot⟩, -⟩ := hrun.frozen h ⟨life, hlife, halive⟩
    rw [hlater] at hlife'
    exact absurd (Option.some.inj hlife').symm hnot

/-- A transaction that is aborted in an environment that is still alive when it is read again
conflicts over something. -/
theorem Run.conflict_of_lostRace {environment environment' : Environment} {document : Value}
    {rest : History} (hrun : Run .initial events world)
    (hthread : world.threads[index]? = some thread)
    (hpast : thread.past = past ++
      ⟨.transact (Environment.checkAliveOp :: ops), .error failure⟩ ::
        ([] ++ ⟨.get Layout.environments Layout.environmentKey, .ok (some document)⟩ :: rest))
    (hfound : past.Found Environment.decode Layout.environments Layout.environmentKey environment)
    (haborted : failure.isAborted = true)
    (hdecode : Environment.decode document = .ok environment')
    (halive : environment'.life = .alive) :
    ∃ before after found left,
      Occurs .initial world index thread.task past
        ⟨.transact (Environment.checkAliveOp :: ops), .error failure⟩ before after found left ∧
      events = before ++
        .exchanged index ⟨.transact (Environment.checkAliveOp :: ops), .error failure⟩ :: after ∧
      Op.Conflict found.store past ops := by
  obtain ⟨before, after, found, left, hoccurs, hevents⟩ :=
    hrun.exists_exchange_of_initial hthread hpast
  refine ⟨before, after, found, left, hoccurs, hevents, ?_⟩
  obtain ⟨before', after', found', left', hreread, -⟩ := hoccurs.exists_exchange hthread hpast
  obtain ⟨hsubmission, hquiet, hadmits⟩ := hoccurs.submits
  obtain ⟨asking, hasking, -, rfl⟩ := hoccurs.thread
  have hreachable : Reachable found := ⟨before, hoccurs.earlier⟩
  have hlater : found'.store.life? = some .alive :=
    halive ▸ hreread.step.answers.life?_of_found rfl hdecode
  have hlife := hreachable.life?_eq_alive (List.mem_of_getElem? hasking) hfound
    (Run.cons hoccurs.step hreread.earlier) hlater
  have hdistinct := hadmits.distinct
    (World.pastOf_eq hasking ▸ hoccurs.earlier.drawn_nodup index MachineId.rootCounter)
  have hupholds := hoccurs.earlier.upholds hasking hquiet hlife
  have hfailed : found.store.transact (Environment.checkAliveOp :: ops) = .error failure := by
    rcases hoccurs.step.answers with ⟨hok, -⟩ | ⟨⟨other, hother, hcause⟩, -⟩
    · cases hok
    · obtain rfl : failure = other := Except.error.inj hother
      rcases hcause with hfailed | ⟨message, hunavailable⟩
      · exact hfailed
      · rw [Except.error.inj hunavailable] at haborted
        cases haborted
  exact hsubmission.conflict hupholds hdistinct hfailed haborted

/-- Lists of state servers that are not those that were read have been changed by another
thread. -/
theorem Occurs.racedForServers {answer : StoreError} {machines : List Machine}
    {current : StateServers} {op : Op}
    (h : Occurs .initial world index task past ⟨.transact ops, .error answer⟩ before after found
      left)
    (hevents : events = before ++ .exchanged index ⟨.transact ops, .error answer⟩ :: after)
    (hop : StateServers.addOp? machines current = some op) (hread : current.WereRead past)
    (hfailure : op.assertion.failure?
      (found.store.get? Layout.stateServers Layout.environmentKey) ≠ none) :
    RacedForServers index events world := by
  have hcounters : Layout.stateServers ≠ Layout.sequence := by decide
  obtain ⟨-, hquiet, -⟩ := h.submits
  obtain ⟨record, ⟨document, hmem, hdecode⟩, rfl⟩ := hread
  obtain ⟨asking, hasking, -, rfl⟩ := h.thread
  obtain ⟨earlier, before', between, start, read, hreading, rfl⟩ :=
    h.earlier.exists_exchange_of_mem hasking hmem
  have hreachable : Reachable start := ⟨before', hreading.earlier⟩
  obtain ⟨hdocument, hsame⟩ := hreading.step.answers.get?_eq
  have hown := h.earlier.notMem_of_refused hasking (by rw [hquiet]; exact nofun)
  refine .intro document ops answer (by simp [hevents]) hreading.earlier hreading.step
    hreading.later h.step h.later ?_
  apply hreading.later.overtaken (hreachable.step hreading.step) hcounters
  · intro own hmem
    exact hown own (List.mem_append_right _ (List.mem_cons_of_mem _ hmem))
  · intro hunchanged
    apply hfailure
    obtain ⟨records, hholds, -⟩ := hreachable.forest
    rw [← hunchanged, hsame, hdocument]
    rw [hholds.servers] at hdocument
    obtain ⟨servers, -, rfl⟩ := Option.map_eq_some_iff.mp hdocument
    rw [StateServersRecord.decode_toValue] at hdecode
    obtain rfl := Except.ok.inj hdecode
    exact (StateServers.failure?_addOp?_iff hop).mpr ⟨rfl, rfl⟩

/-- A machine that was missing and is there now has been added by another thread. -/
theorem Occurs.racedForMachine {answer : StoreError} {document : Value} {id : String}
    {between rest : History}
    (h : Occurs .initial world index task past ⟨.transact ops, .error answer⟩ before after found
      left)
    (hevents : events = before ++ .exchanged index ⟨.transact ops, .error answer⟩ :: after)
    (hthread : world.threads[index]? = some thread)
    (hpast : thread.past = past ++ ⟨.transact ops, .error answer⟩ ::
      (between ++ ⟨.get Layout.machines id, .ok (some document)⟩ :: rest))
    (hown : ∀ own, Event.exchanged index ⟨.transact own, .ok ()⟩ ∉ events)
    (hmissing : found.store.get? Layout.machines id = none) :
    RacedForMachine index id events world := by
  have hcounters : Layout.machines ≠ Layout.sequence := by decide
  obtain ⟨before', after', found', left', hreading, rfl⟩ := h.exists_exchange hthread hpast
  have hreachable : Reachable found := ⟨before, h.earlier⟩
  have hsame : left.store = found.store := by
    rcases h.step.answers with ⟨hok, -⟩ | ⟨-, hsame⟩
    · cases hok
    · exact hsame
  obtain ⟨hdocument, -⟩ := hreading.step.answers.get?_eq
  refine .intro document ops answer hevents h.earlier hmissing h.step hreading.earlier
    hreading.step hreading.later ?_
  apply hreading.earlier.overtaken (hreachable.step h.step) hcounters
  · intro own hmem
    apply hown own
    rw [hevents]
    simp [hmem]
  · rw [hsame, hmissing, hdocument]
    exact (Option.some_ne_none document).symm

/-! ## Why a request reports an aborted transaction -/

theorem Answers.not_spurious {store after : Store} {call : Call} {answer : call.Answer}
    (h : Answers store call answer after) : ¬Exchange.Spurious ⟨call, answer⟩ := by
  intro hspurious
  cases call with
  | get collection id =>
    cases answer with
    | ok document? => cases hspurious
    | error failure =>
      obtain ⟨hok | ⟨message, hmessage⟩, -⟩ := h
      · cases hok
      · cases hmessage
        cases hspurious
  | increment collection id field =>
    cases answer with
    | ok number => cases hspurious
    | error failure =>
      have haborted : failure.isAborted = true := hspurious
      rcases h with hcount | ⟨⟨message, hmessage⟩, -⟩
      · rw [isAborted_of_increment (congrArg Prod.fst hcount).symm] at haborted
        cases haborted
      · cases hmessage
        cases haborted
  | _ => cases hspurious

/-- No store reports a lost race where there is none to lose. -/
theorem Reachable.not_spurious (h : Reachable world) (hthread : thread ∈ world.threads) :
    ¬thread.past.Spurious := by
  obtain ⟨events, hrun⟩ := h
  rintro ⟨exchange, hmem, hspurious⟩
  obtain ⟨index, hindex⟩ := List.getElem?_of_mem hthread
  obtain ⟨past, before, after, found, left, hoccurs, -⟩ := hrun.exists_exchange_of_mem hindex hmem
  exact hoccurs.step.answers.not_spurious hspurious

/-- Only who reports what a machine supports loses a race otherwise than as the state servers do. -/
theorem Task.raced_of_lost (h : task.Lost past)
    (hother : ∀ controller id kinds,
      task ≠ .request controller (.setSupportedContainers id kinds)) : past.Raced := by
  cases task with
  | establish quorum uuid constraints => exact h.elim
  | request controller asked =>
    cases asked with
    | setSupportedContainers id kinds => exact absurd rfl (hother controller id kinds)
    | _ => exact h

/-- Who has lost a race for what a machine supports has found none that another thread has added
by the time it was looked for. -/
theorem Run.racedForMachine_of_lost {asked : History} {document : Value} {id : String}
    {kinds : List ContainerType} (hrun : Run .initial events world)
    (hthread : world.threads[index]? = some thread)
    (hrefused : ∀ submission ∈ thread.past.submissions, submission.2 ≠ .ok ())
    (hlost : asked.LostRace [Machine.reportOp id kinds])
    (hmachine : asked.HasRead thread.past Layout.machines id document) :
    RacedForMachine index id events world := by
  obtain ⟨past, environment, environment', failure, reread, hfound, haborted, hread, hdecode,
    halive⟩ := hlost
  have hpast : thread.past = past ++
      ⟨.transact [Environment.checkAliveOp, Machine.reportOp id kinds], .error failure⟩ ::
        ([] ++ ⟨.get Layout.environments Layout.environmentKey, .ok (some reread)⟩ ::
          [⟨.get Layout.machines id, .ok (some document)⟩]) := by
    rw [hmachine, hread]
    simp
  obtain ⟨before, after, found, left, hoccurs, hevents, hconflict⟩ :=
    hrun.conflict_of_lostRace hthread hpast hfound haborted hdecode halive
  have hlast : thread.past = past ++
      ⟨.transact [Environment.checkAliveOp, Machine.reportOp id kinds], .error failure⟩ ::
        ([⟨.get Layout.environments Layout.environmentKey, .ok (some reread)⟩] ++
          ⟨.get Layout.machines id, .ok (some document)⟩ :: []) := hpast
  have hown := hrun.notMem_of_refused hthread hrefused
  refine hoccurs.racedForMachine hevents hthread hlast hown ?_
  cases hconflict with
  | servers machines current op hop hadd _ _ =>
    have hcollections : Layout.machines ≠ Layout.stateServers := by decide
    obtain ⟨hcollection, -⟩ := StateServers.addOp?_eq_some hadd
    rw [List.mem_singleton.mp hop] at hcollection
    exact absurd hcollection hcollections
  | report id' kinds' hop hmissing =>
    have hid : id' = id := congrArg Op.id (List.mem_singleton.mp hop)
    exact hid ▸ hmissing

/-- Who has lost any other race adds state servers, and another thread has changed the lists of
these after they were read. -/
theorem Run.racedForServers_of_raced (hrun : Run .initial events world)
    (hthread : world.threads[index]? = some thread) (hraced : thread.past.Raced)
    (hother : ∀ controller id kinds,
      thread.task ≠ .request controller (.setSupportedContainers id kinds)) :
    thread.task.AddsServers ∧ RacedForServers index events world := by
  obtain ⟨ops, past, environment, environment', failure, reread, hfound, haborted, hread,
    hdecode, halive⟩ := hraced
  have hpast : thread.past = past ++
      ⟨.transact (Environment.checkAliveOp :: ops), .error failure⟩ ::
        ([] ++ ⟨.get Layout.environments Layout.environmentKey, .ok (some reread)⟩ :: []) := by
    rw [hread]
    simp
  obtain ⟨before, after, found, left, hoccurs, hevents, hconflict⟩ :=
    hrun.conflict_of_lostRace hthread hpast hfound haborted hdecode halive
  obtain ⟨-, -, hadmits⟩ := hoccurs.submits
  cases hconflict with
  | servers machines current op hop hadd hserversRead hfailure =>
    obtain ⟨hcollection, hid, -, heffect⟩ := StateServers.addOp?_eq_some hadd
    have hservers := hadmits.servers op (List.mem_cons_of_mem _ hop)
      (Op.names_iff.mpr ⟨hcollection, hid⟩) ⟨_, heffect⟩
    exact ⟨hservers, hoccurs.racedForServers hevents hadd hserversRead hfailure⟩
  | report id kinds hop hmissing =>
    obtain ⟨controller, kinds', htask⟩ :=
      hadmits.report _ (List.mem_cons_of_mem _ hop) rfl ⟨_, rfl⟩
    exact absurd htask (hother controller id kinds')

/-- A request that reports an aborted transaction adds state servers and another thread has changed
the lists of these after they were read, or it reports what a machine supports that was missing
and another thread has added the machine by the time it was looked for. -/
theorem Run.raced_of_aborted {message : String} (hrun : Run .initial events world)
    (hthread : world.threads[index]? = some thread)
    (hrest : thread.rest = .done (.error (.transactionAborted message))) :
    (thread.task.AddsServers ∧ RacedForServers index events world) ∨
      ∃ controller id kinds,
        thread.task = .request controller (.setSupportedContainers id kinds) ∧
          RacedForMachine index id events world := by
  have hreachable : Reachable world := ⟨events, hrun⟩
  have hmem := List.mem_of_getElem? hthread
  have horderly := hreachable.orderly thread hmem
  rw [Thread.Orderly, hrest] at horderly
  have hfailed : Failed (fun later => thread.task.Lost later) thread.past
    (.transactionAborted message) := horderly
  have hlost := (hfailed.cause rfl).resolve_left (hreachable.not_spurious hmem)
  by_cases hreports : ∃ controller id kinds,
      thread.task = .request controller (.setSupportedContainers id kinds)
  · obtain ⟨controller, id, kinds, htask⟩ := hreports
    rw [htask] at hlost
    obtain ⟨asked, document, hrace, hmachine⟩ := hlost
    exact .inr ⟨controller, id, kinds, htask,
      hrun.racedForMachine_of_lost hthread hfailed.refused hrace hmachine⟩
  · push Not at hreports
    exact .inl (hrun.racedForServers_of_raced hthread
      (Task.raced_of_lost hlost hreports) hreports)

/-- A request reports an aborted transaction only for a race, and never if nobody interferes. -/
theorem aborted_only_by_race {message : String} (hrun : Run .initial events world)
    (hthread : world.threads[index]? = some thread)
    (hrest : thread.rest = .done (.error (.transactionAborted message))) :
    ((thread.task.AddsServers ∧ RacedForServers index events world) ∨
      ∃ controller id kinds,
        thread.task = .request controller (.setSupportedContainers id kinds) ∧
          RacedForMachine index id events world) ∧
      Interfered index events := by
  have hraced := hrun.raced_of_aborted hthread hrest
  refine ⟨hraced, ?_⟩
  rcases hraced with ⟨-, hservers⟩ | ⟨controller, id, kinds, -, hmachine⟩
  · exact hservers.interfered
  · exact hmachine.interfered

/-- Of two requests for state servers that have read the same lists, the one that is overtaken
reports an aborted transaction. -/
theorem World.exists_aborted_overtaken :
    ∃ message, founded.overtaken none Call.isTransact .raising .raising =
      .done (.error (.transactionAborted message)) := by
  have hends : (founded.overtaken none Call.isTransact .raising .raising).endsWith
      (fun result => match result with
        | .error error => error.isAborted
        | .ok _ => false) = true := by decide +kernel
  obtain ⟨result, hresult, haborted⟩ := Session.exists_of_endsWith hends
  cases result with
  | ok _ => cases haborted
  | error error =>
    cases error with
    | transactionAborted message => exact ⟨message, hresult⟩
    | _ => cases haborted

/-- The request that is overtaken has lost a race for the lists. -/
theorem aborted_only_by_race_overtaken :
    ∃ (events : List Event) (world : World) (index : Nat) (thread : Thread) (message : String),
      Run .initial events world ∧ world.threads[index]? = some thread ∧
        thread.rest = .done (.error (.transactionAborted message)) ∧
        RacedForServers index events world := by
  have hpermits : World.founded.Permits .raising := World.permits_founded _
  obtain ⟨events, world, index, past, hrun, hthread⟩ :=
    World.reachable_founded.overtaken none Call.isTransact hpermits hpermits
  obtain ⟨message, hmessage⟩ := World.exists_aborted_overtaken
  rw [hmessage] at hthread
  obtain ⟨⟨-, hraced⟩ | ⟨_, _, _, htask, -⟩, -⟩ := aborted_only_by_race hrun hthread rfl
  · exact ⟨events, world, index, _, message, hrun, hthread, rfl, hraced⟩
  · cases htask

end ControlPlane
