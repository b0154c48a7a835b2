import ControlPlane.Proofs.Environment.Committing
import ControlPlane.Proofs.Machine.Support
import ControlPlane.Proofs.Undisturbed.Insertion
import Mathlib.Data.List.Destutter
import Mathlib.Data.List.Sort

/-!
# Reporting what machines support

A machine that is not dead takes a report of the kinds of container that it
supports, and only the last report counts.  The report is a change of two fields
under a guard, so a failure does not tell what is wrong: the machine is read
again to find that out, and a machine that is missing or dead is the error
rather than the failure.
-/

namespace ControlPlane

open Json Store

/-- A machine as it is after a report: it lists the kinds that have been reported in ascending
order and without repetition and supports these only, and is otherwise what it was. -/
structure Machine.IsReport (machine reported : Machine) (kinds : List ContainerType) : Prop where
  listed : ∃ supported, reported.reportedContainers? = some supported ∧
    supported.Pairwise (fun x y => x.rank < y.rank) ∧ ∀ kind, kind ∈ supported ↔ kind ∈ kinds
  supports_iff : ∀ kind, reported.supports kind = true ↔ kind ∈ kinds
  same : machine = { reported with
    supportedContainersKnown := machine.supportedContainersKnown
    supportedContainers := machine.supportedContainers }

/-- A procedure succeeds without asking the policy, whatever that is, and leads to another store. -/
structure Store.Becomes (store after : Store) (procedure : Procedure Unit) : Prop where
  perform_eq : ∀ {μ : Type} (advisor : Advisor μ) (memory : μ),
    advisor.perform procedure (store, memory) = (.ok (), after, memory)

/-- Between two stores a machine has reported what it supports, and nothing else has changed. -/
structure Store.Reports (store after : Store) (id : String) (machine : Machine)
    (kinds : List ContainerType) : Prop where
  reported : ∃ reported, machine.IsReport reported kinds ∧
    after.get? Layout.machines id = some reported.toValue ∧
    after.Reads (Machine.fetch id) (.ok reported)
  others : ∀ collection key, (collection, key) ≠ (Layout.machines, id) →
    after.get? collection key = store.get? collection key

variable {store after : Store} {environment : Environment} {machine : Machine}
  {members : List (String × Value)} {id : String} {kinds later : List ContainerType}
  {ops : List Op}

/-! ## What is reported -/

namespace ContainerType

theorem pairwise_ascending (kinds : List ContainerType) :
    (ascending kinds).Pairwise fun x y => x.rank < y.rank :=
  List.Pairwise.filter _ (by decide)

theorem rank_injective {x y : ContainerType} (h : x.rank = y.rank) : x = y := by
  cases x <;> cases y <;> simp_all [rank]

theorem mem_destutter' {kind first : ContainerType} (kinds : List ContainerType) :
    kind ∈ kinds.destutter' (· ≠ ·) first ↔ kind = first ∨ kind ∈ kinds := by
  induction kinds generalizing first with
  | nil => simp
  | cons next kinds ih =>
    rw [List.destutter'_cons]
    by_cases hnext : first = next
    · subst hnext
      simp [ih]
    · simp [hnext, ih]

/-- Kinds that are equal to the one before them can be dropped without losing a member. -/
theorem mem_destutter {kind : ContainerType} (kinds : List ContainerType) :
    kind ∈ kinds.destutter (· ≠ ·) ↔ kind ∈ kinds := by
  cases kinds with
  | nil => simp
  | cons first kinds => rw [List.destutter_cons', mem_destutter', List.mem_cons]

/-- In a sorted list without equal neighbours every kind ranks below those behind it. -/
theorem pairwise_destutter (h : kinds.Pairwise fun x y => x.rank ≤ y.rank) :
    (kinds.destutter (· ≠ ·)).Pairwise fun x y => x.rank < y.rank := by
  have hsorted := h.sublist (kinds.destutter_sublist (· ≠ ·))
  have hneighbours := kinds.isChain_destutter (· ≠ ·)
  have hchain : ((kinds.destutter (· ≠ ·)).map rank).IsChain (· < ·) := by
    rw [List.isChain_map, List.isChain_iff_getElem]
    intro index hindex
    have hle := List.pairwise_iff_getElem.mp hsorted index (index + 1) (by omega) hindex (by omega)
    have hne := List.isChain_iff_getElem.mp hneighbours index hindex
    exact Nat.lt_of_le_of_ne hle fun heq => hne (rank_injective heq)
  exact List.pairwise_map.mp hchain.pairwise

/-- Kinds are listed as if they were sorted first, and every one dropped then that is equal to the
one before it. -/
theorem ascending_eq_destutter (kinds : List ContainerType) :
    ascending kinds = (kinds.mergeSort fun x y => x.rank ≤ y.rank).destutter (· ≠ ·) := by
  have hsorted : (kinds.mergeSort fun x y => x.rank ≤ y.rank).Pairwise
      fun x y => decide (x.rank ≤ y.rank) = true :=
    List.pairwise_mergeSort (by simp; omega) (by simp; omega) kinds
  have hascending := pairwise_ascending kinds
  have hdropped := pairwise_destutter (hsorted.imp of_decide_eq_true)
  have hne : ∀ {x y : ContainerType}, x.rank < y.rank → x ≠ y := by
    rintro x y hlt rfl
    exact Nat.lt_irrefl _ hlt
  apply List.Perm.eq_of_pairwise _ hascending hdropped
  · rw [List.perm_ext_iff_of_nodup (hascending.imp hne) (hdropped.imp hne)]
    intro kind
    rw [mem_ascending, mem_destutter, List.mem_mergeSort]
  · intro x y _ _ hlt hgt
    exact absurd hgt (Nat.lt_asymm hlt)

/-- The order and the repetitions of a list of kinds do not matter. -/
theorem ascending_congr (h : ∀ kind, kind ∈ later ↔ kind ∈ kinds) :
    ascending later = ascending kinds := by
  apply List.filter_congr
  intro kind _
  rw [Bool.eq_iff_iff, List.contains_iff_mem, List.contains_iff_mem]
  exact h kind

end ContainerType

namespace Machine

theorem isReport_reporting (machine : Machine) (kinds : List ContainerType) :
    machine.IsReport (machine.reporting kinds) kinds where
  listed := ⟨ContainerType.ascending kinds, rfl, ContainerType.pairwise_ascending kinds,
    fun _ => ContainerType.mem_ascending⟩
  supports_iff := machine.supports_reporting kinds
  same := rfl

end Machine

/-! ## Failures -/

/-- A batch whose transaction cannot take place ends in some error and changes nothing. -/
theorem Store.reads_commit_error
    (hfail : ∀ after, store.transact (Environment.checkAliveOp :: ops) ≠ .ok after) :
    ∃ error, store.Reads (commit ops) (.error error) := by
  rcases hcommit : store.transact (Environment.checkAliveOp :: ops) with failure | after
  · rcases htold : Environment.told (.ok (store.get? Layout.environments Layout.environmentKey))
      with error | environment
    · refine ⟨error, ⟨fun advisor memory => ?_⟩⟩
      unfold Advisor.perform
      rw [run_commit]
      simp only [Session.run, Advisor.answer, htold]
    · by_cases halive : environment.life = .alive
      · refine ⟨Environment.verdict failure (.ok environment), ⟨fun advisor memory => ?_⟩⟩
        unfold Advisor.perform
        rw [run_commit]
        simp only [Session.run, Advisor.answer, htold, halive, Environment.submit, hcommit,
          not_true_eq_false, if_false, ne_eq]
      · refine ⟨.environmentNotAlive, ⟨fun advisor memory => ?_⟩⟩
        unfold Advisor.perform
        rw [run_commit]
        simp only [Session.run, Advisor.answer, htold, halive, not_false_eq_true, if_true, ne_eq]
  · exact absurd hcommit (hfail after)

namespace Machine

theorem reads_setSupportedContainers_none (store : Store) (id : String)
    (hkinds : .noContainer ∈ kinds) :
    store.Reads (setSupportedContainers id kinds)
      (.error (.invalidRequest "\"none\" is not a valid container type")) := by
  unfold setSupportedContainers
  rw [if_pos (List.contains_iff_mem.mpr hkinds)]
  exact .bind_error (.throw _)

/-- No report takes place where its guard does not hold. -/
theorem transact_reportOp_ne_ok
    (hguard : (reportOp id kinds).assertion.failure? (store.get? Layout.machines id) ≠ none)
    (after : Store) :
    store.transact [Environment.checkAliveOp, reportOp id kinds] ≠ .ok after := by
  intro hcommit
  have hchecks := checkFrom_eq_ok_iff.mp (transact_eq_ok_iff.mp hcommit).1
  exact hguard (hchecks (reportOp id kinds) (by simp))

/-- A machine that does not exist is not found. -/
theorem reads_setSupportedContainers_missing (hkinds : .noContainer ∉ kinds)
    (hget : store.get? Layout.machines id = none) :
    store.Reads (setSupportedContainers id kinds)
      (.error (.objectNotFound .machine (.ofKey id))) := by
  have hguard : (reportOp id kinds).assertion.failure? (store.get? Layout.machines id) ≠ none := by
    rw [hget]
    exact nofun
  obtain ⟨failure, hfailure⟩ := reads_commit_error (transact_reportOp_ne_ok hguard)
  unfold setSupportedContainers
  rw [if_neg (mt List.contains_iff_mem.mp hkinds)]
  exact hfailure.attempt.bind (Procedure.reads_fetch_none .machine hget).bind_error

/-- A machine that is dead is refused, whatever else is in the store. -/
theorem reads_setSupportedContainers_dead (hkinds : .noContainer ∉ kinds)
    (hget : store.get? Layout.machines id = some (.object members))
    (hstored : Value.StoredIn machine.toFields members) (hdead : machine.life = .dead) :
    store.Reads (setSupportedContainers id kinds)
      (.error (.invalidRequest ("machine " ++ id ++ " is dead"))) := by
  have hguard : (reportOp id kinds).assertion.failure? (store.get? Layout.machines id) ≠ none := by
    rw [hget, failure?_reportOp hstored, if_pos hdead]
    exact nofun
  obtain ⟨failure, hfailure⟩ := reads_commit_error (transact_reportOp_ne_ok hguard)
  unfold setSupportedContainers
  rw [if_neg (mt List.contains_iff_mem.mp hkinds)]
  apply hfailure.attempt.bind
  apply (Procedure.reads_fetch_some .machine hget (decode_eq hstored)).bind
  rw [if_pos hdead]
  exact .throw _

end Machine

/-! ## Success -/

theorem Machine.applyFrom_reportOp
    (hget : store.get? Layout.machines id = some machine.toValue) (kinds : List ContainerType)
    (index : Nat) :
    store.applyFrom index [reportOp id kinds] =
      .ok (store.put Layout.machines id (some (machine.reporting kinds).toValue)) := by
  have happly := machine.apply_reportOp id kinds
  rw [← hget] at happly
  change (reportOp id kinds).effect.apply
    (store.get? (reportOp id kinds).collection (reportOp id kinds).id) = _ at happly
  rw [applyFrom, happly]
  rfl

section Success

variable (hgoverned : store.Governed (some environment)) (halive : environment.life = .alive)
  (hget : store.get? Layout.machines id = some machine.toValue) (hlife : machine.life ≠ .dead)

include hgoverned halive hget hlife

/-- Where the environment is alive and the machine is not dead a report takes place. -/
theorem Store.Governed.exists_transact_reportOp (kinds : List ContainerType) :
    ∃ after,
      store.transact [Environment.checkAliveOp, Machine.reportOp id kinds] = .ok after := by
  have hguard : (Machine.reportOp id kinds).assertion.failure?
      (store.get? Layout.machines id) = none := by
    rw [hget]
    exact Machine.failure?_reportOp_of_ne hlife id kinds
  have hassertion : Environment.aliveAssertion.failure?
      (store.get? Layout.environments Layout.environmentKey) = none := by
    rw [hgoverned.document, Option.map_some, Environment.failure?_aliveAssertion, if_pos halive]
  have hchecks : store.checkFrom 0 [Environment.checkAliveOp, Machine.reportOp id kinds] = .ok () :=
    checkFrom_eq_ok_iff.mpr
      (List.forall_mem_cons.mpr ⟨hassertion, List.forall_mem_singleton.mpr hguard⟩)
  -- The check of the environment puts back what is there.
  have hchecked : (store.put Layout.environments Layout.environmentKey
      (store.get? Layout.environments Layout.environmentKey)).get? Layout.machines id =
        some machine.toValue := by
    have hcollections : Layout.machines ≠ Layout.environments := by decide
    rw [get?_put, if_neg fun heq => hcollections heq.1, hget]
  exact ⟨_, transact_eq_ok_iff.mpr ⟨hchecks, Machine.applyFrom_reportOp hchecked kinds 1⟩⟩

/-- Where the environment is alive and the machine is not dead it takes a report. -/
theorem Store.Governed.report (hkinds : .noContainer ∉ kinds) :
    ∃ after, store.Becomes after (Machine.setSupportedContainers id kinds) ∧
      after.Governed (some environment) ∧
      after.get? Layout.machines id = some (machine.reporting kinds).toValue ∧
      ∀ collection key, (collection, key) ≠ (Layout.machines, id) →
        after.get? collection key = store.get? collection key := by
  obtain ⟨after, hcommit⟩ := hgoverned.exists_transact_reportOp halive hget hlife kinds
  have hcollections : Layout.machines ≠ Layout.environments := by decide
  have hothers : ∀ collection key, (collection, key) ≠ (Layout.machines, id) →
      after.get? collection key = store.get? collection key := by
    intro collection key hplace
    apply get?_eq_of_commit hcommit
    · exact List.forall_mem_singleton.mpr hcollections
    · exact List.forall_mem_singleton.mpr hplace.symm
  refine ⟨after, ⟨?_⟩, ?_, get?_of_report hget hcommit, hothers⟩
  · intro μ advisor memory
    have hperform := advisor.perform_attempt (commit [Machine.reportOp id kinds]) (store, memory)
    rw [hgoverned.perform_commit halive hcommit] at hperform
    unfold Machine.setSupportedContainers
    rw [if_neg (mt List.contains_iff_mem.mp hkinds)]
    exact Advisor.perform_bind_ok hperform
  · apply hgoverned.congr
    intro collection hcollection key
    apply hothers
    intro heq
    have hmachines : Layout.machines ∉ [Layout.environments, Layout.constraints] := by decide
    exact hmachines ((Prod.mk.inj heq).1 ▸ hcollection)

end Success

/-- What is written of a machine is what is read of it. -/
theorem Store.reports_of_document
    (hdocument : after.get? Layout.machines id = some (machine.reporting kinds).toValue)
    (hothers : ∀ collection key, (collection, key) ≠ (Layout.machines, id) →
      after.get? collection key = store.get? collection key) :
    store.Reports after id machine kinds where
  reported := ⟨machine.reporting kinds, machine.isReport_reporting kinds, hdocument,
    Procedure.reads_fetch_some .machine hdocument (machine.reporting kinds).decode_toValue⟩
  others := hothers

/-- A later report takes the place of an earlier one, and where it has the same members it changes
nothing. -/
theorem Store.Governed.report_again (hgoverned : store.Governed (some environment))
    (halive : environment.life = .alive)
    (hget : store.get? Layout.machines id = some machine.toValue) (hlife : machine.life ≠ .dead)
    (hkinds : .noContainer ∉ kinds) :
    ∃ after, store.Becomes after (Machine.setSupportedContainers id kinds) ∧
      store.Reports after id machine kinds ∧
      ∀ later, .noContainer ∉ later →
        ∃ last, after.Becomes last (Machine.setSupportedContainers id later) ∧
          store.Reports last id machine later ∧
          ((∀ kind, kind ∈ later ↔ kind ∈ kinds) →
            ∀ collection key, last.get? collection key = after.get? collection key) := by
  obtain ⟨after, hfirst, hgoverned', hdocument, hothers⟩ :=
    hgoverned.report halive hget hlife hkinds
  refine ⟨after, hfirst, reports_of_document hdocument hothers, ?_⟩
  intro later hlater
  obtain ⟨last, hsecond, -, hdocument', hothers'⟩ :=
    hgoverned'.report halive hdocument hlife hlater
  -- What has been reported before is not left in the record.
  change last.get? Layout.machines id = some (machine.reporting later).toValue at hdocument'
  refine ⟨last, hsecond, reports_of_document hdocument' ?_, ?_⟩
  · intro collection key hplace
    rw [hothers' collection key hplace, hothers collection key hplace]
  · intro hmembers collection key
    by_cases hplace : (collection, key) = (Layout.machines, id)
    · obtain ⟨rfl, rfl⟩ := Prod.mk.inj hplace
      rw [hdocument', hdocument, Machine.reporting, Machine.reporting,
        ContainerType.ascending_congr hmembers]
    · exact hothers' collection key hplace

/-- What is known of a machine in a reachable world is its document, and it is alive. -/
theorem Reachable.get?_of_machine? {world : World} (h : Reachable world) (id : String) :
    (world.store.machine? id = none → world.store.get? Layout.machines id = none) ∧
      ∀ machine, world.store.machine? id = some machine →
        world.store.get? Layout.machines id = some machine.toValue ∧ machine.life = .alive := by
  rcases h.accounts id with hnone | ⟨machine, constraints, hardware, hget, hlife, -⟩
  · have hget : world.store.get? Layout.machines id = none :=
      (Machine.forall_mem_places.mp hnone).1
    constructor
    · intro _
      exact hget
    · intro machine hmachine
      rw [machine?, record?, hget] at hmachine
      cases hmachine
  · rw [machine?_of_get? hget]
    constructor
    · intro hnone
      cases hnone
    · intro found heq
      obtain rfl := Option.some.inj heq
      exact ⟨hget, hlife⟩

/-- In an environment that is alive a machine that exists takes every report of kinds of container,
and is afterwards as it has reported last: order and repetitions do not matter, and nothing else
changes.  No machine takes "none" for a kind, one that does not exist is not found, and one that is
dead is refused whatever else is in the store. -/
theorem last_report_counts {world : World} (hreachable : Reachable world)
    (halive : world.store.life? = some .alive) (id : String) (kinds : List ContainerType) :
    (.noContainer ∈ kinds → world.store.Reads (Machine.setSupportedContainers id kinds)
      (.error (.invalidRequest "\"none\" is not a valid container type"))) ∧
    (.noContainer ∉ kinds → world.store.machine? id = none →
      world.store.Reads (Machine.setSupportedContainers id kinds)
        (.error (.objectNotFound .machine (.ofKey id)))) ∧
    (.noContainer ∉ kinds → ∀ machine, world.store.machine? id = some machine →
      ∃ after, world.store.Becomes after (Machine.setSupportedContainers id kinds) ∧
        world.store.Reports after id machine kinds ∧
        ∀ later, .noContainer ∉ later →
          ∃ last, after.Becomes last (Machine.setSupportedContainers id later) ∧
            world.store.Reports last id machine later ∧
            ((∀ kind, kind ∈ later ↔ kind ∈ kinds) →
              ∀ collection key, last.get? collection key = after.get? collection key)) ∧
    ∀ (store : Store) (members : List (String × Value)) (machine : Machine),
      store.get? Layout.machines id = some (.object members) →
      Value.StoredIn machine.toFields members → machine.life = .dead →
        ∃ message, store.Reads (Machine.setSupportedContainers id kinds)
            (.error (.invalidRequest message)) ∧
          (.noContainer ∉ kinds → message = "machine " ++ id ++ " is dead") := by
  obtain ⟨environment, records, defaults, hregular, hlife, -⟩ := hreachable.regular_of_alive halive
  obtain ⟨hmissing, hfound⟩ := hreachable.get?_of_machine? id
  refine ⟨Machine.reads_setSupportedContainers_none _ id, ?_, ?_, ?_⟩
  · intro hkinds hmachine
    exact Machine.reads_setSupportedContainers_missing hkinds (hmissing hmachine)
  · intro hkinds machine hmachine
    obtain ⟨hget, hmachineAlive⟩ := hfound machine hmachine
    have hnotDead : machine.life ≠ .dead := by
      rw [hmachineAlive]
      decide
    exact hregular.governed.report_again hlife hget hnotDead hkinds
  · intro store members machine hget hstored hdead
    by_cases hkinds : .noContainer ∈ kinds
    · exact ⟨_, Machine.reads_setSupportedContainers_none store id hkinds,
        fun hnot => absurd hkinds hnot⟩
    · exact ⟨_, Machine.reads_setSupportedContainers_dead hkinds hget hstored hdead, fun _ => rfl⟩

/-- In the settled world the machine "0" reports that it supports both kinds of container, in either
order, and a machine "9" is not found.  Were the machine "0" dead it would be refused. -/
theorem last_report_counts_settled :
    World.settled.store.Reads (Machine.setSupportedContainers "0" [.lxc, .noContainer])
      (.error (.invalidRequest "\"none\" is not a valid container type")) ∧
    World.settled.store.Reads (Machine.setSupportedContainers "9" [.lxc])
      (.error (.objectNotFound .machine (.ofKey "9"))) ∧
    ∃ machine, World.settled.store.machine? "0" = some machine ∧
      (∃ after last, World.settled.store.Becomes after
          (Machine.setSupportedContainers "0" [.kvm, .lxc, .kvm]) ∧
        World.settled.store.Reports after "0" machine [.kvm, .lxc, .kvm] ∧
        after.Becomes last (Machine.setSupportedContainers "0" [.lxc, .kvm]) ∧
        ∀ collection key, last.get? collection key = after.get? collection key) ∧
      ∃ message, (World.settled.store.put Layout.machines "0"
        (some { machine with life := .dead }.toValue)).Reads
          (Machine.setSupportedContainers "0" [.lxc]) (.error (.invalidRequest message)) := by
  have halive := World.life?_settled
  obtain ⟨hsome, hmissing⟩ : (World.settled.store.machine? "0").isSome = true ∧
      World.settled.store.machine? "9" = none := by decide +kernel
  have hcounts := last_report_counts World.reachable_settled halive
  obtain ⟨machine, hmachine⟩ := Option.isSome_iff_exists.mp hsome
  obtain ⟨after, hbecomes, hreports, hagain⟩ :=
    (hcounts "0" [.kvm, .lxc, .kvm]).2.2.1 (by decide) machine hmachine
  obtain ⟨last, hlast, -, hsame⟩ := hagain [.lxc, .kvm] (by decide)
  have hmembers : ∀ kind : ContainerType, kind ∈ [.lxc, .kvm] ↔ kind ∈ [.kvm, .lxc, .kvm] := by
    rintro (_ | _ | _) <;> decide
  refine ⟨(hcounts "0" _).1 (by decide), (hcounts "9" _).2.1 (by decide) hmissing, machine,
    hmachine, ⟨after, last, hbecomes, hreports, hlast, hsame hmembers⟩, ?_⟩
  obtain ⟨message, hreads, -⟩ := (hcounts "0" [.lxc]).2.2.2
    (World.settled.store.put Layout.machines "0" (some { machine with life := .dead }.toValue)) _
    { machine with life := .dead } (by rw [get?_put, if_pos ⟨rfl, rfl⟩]; rfl)
    (Value.storedIn_ofFields (Machine.toFields_nodup _)) rfl
  exact ⟨message, hreads⟩

end ControlPlane
