import ControlPlane.Proofs.Run.Endings
import ControlPlane.Proofs.Run.Sequential

/-!
# All or nothing

Whatever other writers do between its calls, and whichever of its calls fail,
a task submits one transaction at most.  If it fails it has written nothing
but counters; if it succeeds its transaction was applied as a whole in one
step, or there was nothing to apply.
-/

namespace ControlPlane

open Json Store

/-- The request only reads. -/
def Request.IsReading : Request → Prop
  | environment => True
  | environmentConstraints => True
  | stateServers => True
  | machine _ => True
  | containers _ => True
  | machineConstraints _ => True
  | machineStatus _ => True
  | instanceData _ => True
  | _ => False

/-- What a task has done by the time it has its result. -/
inductive Task.Achieves (moments : List Moment) : Task → Prop where
  /-- A read writes nothing. -/
  | read {controller : Controller} {asked : Request} (hread : asked.IsReading)
      (hidle : ∀ moment ∈ moments, moment.Idle) : Achieves moments (.request controller asked)
  /-- One transaction was applied in one step, and apart from it only counters were written. -/
  | applied {task : Task} (earlier later : List Moment) (moment : Moment) (ops : List Op)
      (hmoments : moments = earlier ++ moment :: later) (happlies : moment.Applies ops)
      (hothers : ∀ other ∈ earlier ++ later, other.Idle ∨ other.Counts) : Achieves moments task
  /-- One number was drawn from the counter. -/
  | counted {controller : Controller} {counter : String} (moment : Moment) (number : Nat)
      (hmoments : moments = [moment])
      (hexchange : moment.exchange =
        ⟨.increment Layout.sequence counter "counter", .ok number⟩)
      (hcounts : (.ok number, moment.after) =
        moment.before.increment Layout.sequence counter "counter") :
      Achieves moments (.request controller (.nextNumber counter))
  /-- The environment was found to be past its life. -/
  | dead {controller : Controller} (document : Value) (environment : Environment)
      (hread : exchanges moments =
        [⟨.get Layout.environments Layout.environmentKey, .ok (some document)⟩])
      (hdecode : Environment.decode document = .ok environment)
      (hlife : environment.life ≠ .alive) (hidle : ∀ moment ∈ moments, moment.Idle) :
      Achieves moments (.request controller .destroyEnvironment)
  /-- The transaction that ends the environment was aborted. -/
  | aborted {controller : Controller} (index : Nat) (collection id : String)
      (reason : AbortReason)
      (haborted : (exchanges moments).submissions =
        [([Environment.destroyOp], .error (.aborted index collection id reason))])
      (hidle : ∀ moment ∈ moments, moment.Idle) :
      Achieves moments (.request controller .destroyEnvironment)
  /-- The target was found to be reached. -/
  | enough {controller : Controller} {target : Nat} {constraints : Constraints} {series : String}
      (servers : StateServers) (hread : servers.WereRead (exchanges moments))
      (hvoters : servers.votingMachineIds.length = target)
      (hidle : ∀ moment ∈ moments, moment.Idle) :
      Achieves moments (.request controller (.ensureAvailability target constraints series))

variable {task : Task} {moments : List Moment} {rest : Session (Except Error task.Result)}
  {past : History}

/-- A call is a transaction, or it prepares one. -/
theorem Disciplined.preparatory_or_transact {admits : History → List Op → Prop} {call : Call}
    (h : Disciplined admits past call) : call.Preparatory ∨ ∃ ops, call = .transact ops := by
  cases call with
  | transact ops => exact .inr ⟨ops, rfl⟩
  | _ => exact .inl h

theorem Disciplined.length_submissions_le {admits : History → List Op → Prop} {call : Call}
    (h : Disciplined admits past call) (hpast : past.submissions.length ≤ 1)
    (answer : call.Answer) : (History.submissions (past ++ [⟨call, answer⟩])).length ≤ 1 := by
  rcases h.preparatory_or_transact with hcall | ⟨ops, rfl⟩
  · rw [past.submissions_append_of_preparatory hcall]
    exact hpast
  · rw [History.submissions_append_transact, h.1]
    exact Nat.le_refl 1

namespace Task

section Moments

variable (h : task.procedure.run.Converses moments rest)

include h

theorem length_submissions_le : (exchanges moments).submissions.length ≤ 1 :=
  h.keeps (fun later => later.submissions.length ≤ 1) task.procedure_ends (Nat.zero_le 1)
    fun _ _ answer hpast hcall => hcall.length_submissions_le hpast answer

/-- Every moment is a submission, or it writes nothing but a counter. -/
theorem idle_or_counts {moment : Moment} (hmem : moment ∈ moments)
    (hprepares : moment.exchange.submission? = none) : moment.Idle ∨ moment.Counts := by
  have hcalls : ∀ exchange ∈ exchanges moments,
      exchange.call.Preparatory ∨ ∃ ops, exchange.call = .transact ops := by
    apply h.keeps (fun later => ∀ exchange ∈ later,
      exchange.call.Preparatory ∨ ∃ ops, exchange.call = .transact ops) task.procedure_ends
      (List.forall_mem_nil _)
    intro later call answer hlater hcall exchange hexchange
    rcases List.mem_append.mp hexchange with hexchange | hexchange
    · exact hlater exchange hexchange
    · rw [List.mem_singleton.mp hexchange]
      exact hcall.preparatory_or_transact
  rcases hcalls moment.exchange (List.mem_map_of_mem hmem) with hcall | ⟨ops, hcall⟩
  · exact Moment.idle_or_counts_of_preparatory (h.serves moment hmem) hcall
  · obtain ⟨before, ⟨call, answer⟩, after⟩ := moment
    obtain rfl : call = .transact ops := hcall
    cases hprepares

/-- Every moment applies a transaction, or it writes nothing but a counter. -/
theorem applies_or_quiet {moment : Moment} (hmem : moment ∈ moments) :
    (∃ ops, moment.Applies ops) ∨ moment.Idle ∨ moment.Counts := by
  cases hsubmission : moment.exchange.submission? with
  | none => exact .inr (idle_or_counts h hmem hsubmission)
  | some submission =>
    obtain ⟨ops, answer⟩ := submission
    rcases Moment.applies_or_idle (h.serves moment hmem) hsubmission with
      ⟨happlies, -⟩ | ⟨hidle, -⟩
    · exact .inl ⟨ops, happlies⟩
    · exact .inr (.inl hidle)

/-- A transaction that was submitted and took place was applied in one step. -/
theorem exists_applies (hcommitted : (exchanges moments).Committed) :
    ∃ moment ∈ moments, ∃ ops, moment.Applies ops := by
  obtain ⟨ops, hsubmissions⟩ := hcommitted
  have hsubmitted : (ops, .ok ()) ∈ (exchanges moments).submissions :=
    hsubmissions ▸ List.mem_singleton_self _
  obtain ⟨exchange, hexchange, hsubmission⟩ := List.mem_filterMap.mp hsubmitted
  obtain ⟨moment, hmem, rfl⟩ := List.mem_map.mp hexchange
  rcases Moment.applies_or_idle (h.serves moment hmem) hsubmission with
    ⟨happlies, -⟩ | ⟨-, failure, hfailure⟩
  · exact ⟨moment, hmem, ops, happlies⟩
  · cases hfailure

omit h in
/-- Apart from the transaction that it applies, a task writes nothing but counters. -/
theorem quiet_of_applies {earlier later : List Moment} {moment : Moment} {ops : List Op}
    (h : task.procedure.run.Converses (earlier ++ moment :: later) rest)
    (happlies : moment.Applies ops) : ∀ other ∈ earlier ++ later, other.Idle ∨ other.Counts := by
  have hsubmission : moment.exchange.submission? = some (ops, .ok ()) := by
    rw [happlies.1]
    rfl
  have hlength := length_submissions_le h
  have hnone : (earlier ++ later).filterMap (fun other => other.exchange.submission?) = [] := by
    simp only [History.submissions, List.map_append, List.map_cons, List.filterMap_append,
      List.filterMap_cons, hsubmission, List.filterMap_map, Function.comp_def,
      List.length_append, List.length_cons] at hlength
    apply List.eq_nil_of_length_eq_zero
    rw [List.filterMap_append, List.length_append]
    omega
  intro other hother
  have hmem : other ∈ earlier ++ moment :: later := by
    rw [List.mem_append] at hother ⊢
    exact hother.imp_right (List.mem_cons_of_mem _)
  exact idle_or_counts h hmem (List.filterMap_eq_nil_iff.mp hnone other hother)

theorem Achieves.of_committed (hcommitted : (exchanges moments).Committed) :
    task.Achieves moments := by
  obtain ⟨moment, hmem, ops, happlies⟩ := exists_applies h hcommitted
  obtain ⟨earlier, later, rfl⟩ := List.append_of_mem hmem
  exact .applied earlier later moment ops rfl happlies (quiet_of_applies h happlies)

theorem idle_of_gets
    (hgets : ∀ exchange ∈ exchanges moments, ∃ collection id,
      exchange.call = .get collection id) : ∀ moment ∈ moments, moment.Idle := by
  intro moment hmem
  obtain ⟨collection, id, hget⟩ := hgets moment.exchange (List.mem_map_of_mem hmem)
  exact Moment.idle_of_get (h.serves moment hmem) hget

theorem idle_of_looked (hlooked : (exchanges moments).Looked) :
    ∀ moment ∈ moments, moment.Idle := by
  obtain ⟨collection, id, document, hread⟩ := hlooked
  apply idle_of_gets h
  intro exchange hexchange
  rw [hread, List.nil_append, List.mem_singleton] at hexchange
  exact ⟨collection, id, congrArg Exchange.call hexchange⟩

end Moments

theorem Achieves.of_counted {controller : Controller} {counter : String}
    {rest : Session (Except Error Nat)}
    (h : (ControlPlane.nextNumber counter).run.Converses moments rest)
    (hcounted : (exchanges moments).Counted counter) :
    Achieves moments (.request controller (.nextNumber counter)) := by
  obtain ⟨number, hnumber⟩ := hcounted
  obtain ⟨moment, rfl, hexchange⟩ := List.map_eq_singleton_iff.mp hnumber
  have hserves := h.serves moment (List.mem_singleton_self moment)
  rw [hexchange] at hserves
  rcases hserves with hcounts | ⟨⟨failure, hfailure⟩, -⟩
  · exact .counted moment number rfl hexchange hcounts
  · cases hfailure

theorem Achieves.of_ended {controller : Controller} {rest : Session (Except Error Unit)}
    (h : Environment.destroy.run.Converses moments rest)
    (hended : Environment.Ended (exchanges moments)) :
    Achieves moments (.request controller .destroyEnvironment) := by
  have htask : (Task.request controller .destroyEnvironment).procedure.run.Converses moments rest :=
    h
  obtain ⟨found, document, environment, hfound, hdecode, hcases⟩ := hended
  rw [History.HasRead, List.nil_append] at hfound
  subst hfound
  rcases hcases with ⟨hlife, hpast⟩ | ⟨answer, hpast, hanswer⟩
  · refine .dead document environment hpast hdecode hlife (idle_of_gets htask ?_)
    intro exchange hexchange
    rw [hpast, List.mem_singleton] at hexchange
    exact ⟨_, _, congrArg Exchange.call hexchange⟩
  · have hsubmissions : (exchanges moments).submissions = [([Environment.destroyOp], answer)] := by
      rw [hpast]
      rfl
    cases answer with
    | ok _ => exact .of_committed htask ⟨_, hsubmissions⟩
    | error failure =>
      cases failure with
      | aborted index collection id reason =>
        refine .aborted index collection id reason hsubmissions ?_
        intro moment hmem
        have hserves := h.serves moment hmem
        have hexchange : moment.exchange ∈ exchanges moments := List.mem_map_of_mem hmem
        simp only [hpast, List.cons_append, List.nil_append, List.mem_cons, List.not_mem_nil,
          or_false] at hexchange
        rcases hexchange with hexchange | hexchange
        · exact Moment.idle_of_get hserves (congrArg Exchange.call hexchange)
        · have hsubmission := congrArg Exchange.submission? hexchange
          rcases Moment.applies_or_idle hserves hsubmission with ⟨-, hok⟩ | ⟨hidle, -⟩
          · cases hok
          · exact hidle
      | invalidOp index collection id cause => exact absurd (hanswer _ rfl) Bool.false_ne_true
      | unavailable message => exact absurd (hanswer _ rfl) Bool.false_ne_true

theorem Achieves.of_ensured {controller : Controller} {target : Nat} {constraints : Constraints}
    {series : String} {rest : Session (Except Error Unit)}
    (h : (controller.ensureAvailability target constraints series).run.Converses moments rest)
    (hensured : Controller.Ensured target (exchanges moments)) :
    Achieves moments (.request controller (.ensureAvailability target constraints series)) := by
  have htask : (Task.request controller
      (.ensureAvailability target constraints series)).procedure.run.Converses moments rest := h
  rcases hensured with hcommitted |
    ⟨found, document, document', record, hfound, hread, hdecode, hvoters⟩
  · exact .of_committed htask hcommitted
  · have hservers : record.servers.WereRead (exchanges moments) :=
      ⟨record, hread.found hdecode, rfl⟩
    refine .enough record.servers hservers hvoters (idle_of_gets htask ?_)
    rw [History.HasRead, hfound] at hread
    intro exchange hexchange
    simp only [hread, List.cons_append, List.nil_append, List.mem_cons, List.not_mem_nil,
      or_false] at hexchange
    rcases hexchange with hexchange | hexchange
    · exact ⟨_, _, congrArg Exchange.call hexchange⟩
    · exact ⟨_, _, congrArg Exchange.call hexchange⟩

/-- A task that is said to have concluded has achieved what it was to do. -/
theorem achieves_of_concluded (h : task.procedure.run.Converses moments rest)
    (hconcluded : task.Concluded (exchanges moments)) : task.Achieves moments := by
  cases task with
  | establish quorum uuid constraints => exact .of_committed h hconcluded
  | request controller asked =>
    cases asked with
    | setEnvironmentConstraints constraints => exact .of_committed h hconcluded
    | destroyEnvironment => exact .of_ended h hconcluded
    | nextNumber counter => exact .of_counted h hconcluded
    | ensureAvailability target constraints series => exact .of_ensured h hconcluded
    | setSupportedContainers id kinds => exact .of_committed h hconcluded
    | addMachines raws => exact .of_committed h hconcluded
    | addMachine raw => exact .of_committed h hconcluded
    | addInside raw parent kind => exact .of_committed h hconcluded
    | addInsideNew raw rawParent kind => exact .of_committed h hconcluded
    | _ => exact .read trivial (idle_of_looked h hconcluded)

end Task

/-- A task submits one transaction at most.  If it ends in an error, all its calls have left the
store as it was or have added one to a counter.  If it has its result, it has achieved what it
was to do. -/
theorem all_or_nothing (h : task.procedure.run.Converses moments rest) :
    (exchanges moments).submissions.length ≤ 1 ∧
      (∀ error, rest = .done (.error error) →
        ∀ moment ∈ moments, moment.Idle ∨ moment.Counts) ∧
      (∀ result, rest = .done (.ok result) → task.Achieves moments) := by
  have hends := h.conforms task.procedure_ends
  rw [List.nil_append] at hends
  refine ⟨Task.length_submissions_le h, ?_, ?_⟩
  · rintro error rfl moment hmem
    have hfailed : Failed (fun later => task.Lost later) (exchanges moments) error := hends
    cases hsubmission : moment.exchange.submission? with
    | none => exact Task.idle_or_counts h hmem hsubmission
    | some submission =>
      obtain ⟨ops, answer⟩ := submission
      rcases Moment.applies_or_idle (h.serves moment hmem) hsubmission with
        ⟨-, rfl⟩ | ⟨hidle, -⟩
      · have hsubmitted : (ops, .ok ()) ∈ (exchanges moments).submissions :=
          List.mem_filterMap.mpr ⟨_, List.mem_map_of_mem hmem, hsubmission⟩
        exact absurd rfl (hfailed.refused _ hsubmitted)
      · exact .inl hidle
  · rintro result rfl
    exact Task.achieves_of_concluded h hends

/-! ## A task that is overtaken -/

/-- A request to end the environment finds it alive, and is overtaken by another one before its
transaction: it has its result all the same. -/
theorem all_or_nothing_overtaken :
    ∃ moments result,
      Environment.destroy.run.Converses moments (.done (.ok result)) ∧
        (Task.request World.usual .destroyEnvironment).Achieves moments := by
  obtain ⟨moments, hconverses, -⟩ :=
    World.founded.exists_converses_overtaken none Call.isTransact .ending .ending
  have hends : (World.founded.overtaken none Call.isTransact .ending .ending).endsWith
      Except.isOk = true := by decide +kernel
  obtain ⟨result, hresult, hok⟩ := Session.exists_of_endsWith hends
  rw [hresult] at hconverses
  cases result with
  | error error => cases hok
  | ok result => exact ⟨moments, result, hconverses, (all_or_nothing hconverses).2.2 result rfl⟩

end ControlPlane
