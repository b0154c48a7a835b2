import ControlPlane.Proofs.Records.Transactions
import ControlPlane.Proofs.Run.Requests
import ControlPlane.Proofs.Store.Counting

/-!
# The records of reachable worlds

In every reachable world each thread goes on to make lawful calls only, under
a limit on voters that is no greater than that of the world.  So with every
step the records change in one of the ways of `Records.Change`, and what these
changes keep holds in every reachable world.
-/

namespace ControlPlane

open Json Store

variable {world later : World} {event : Event} {records : Records}

namespace World

theorem maxPeers_le_peerLimit {controller : Controller} (h : controller ∈ world.controllers) :
    controller.maxPeers ≤ world.peerLimit := by
  obtain ⟨store, controllers, threads⟩ := world
  unfold peerLimit
  induction controllers with
  | nil => cases h
  | cons first rest ih =>
    rw [List.map_cons, List.foldr_cons]
    rcases List.mem_cons.mp h with rfl | h
    · exact Nat.le_max_left _ _
    · exact Nat.le_trans (ih h) (Nat.le_max_right _ _)

theorem peerLimit_le_gain (controller : Controller) :
    world.peerLimit ≤ (world.gain controller).peerLimit := by
  obtain ⟨store, controllers, threads⟩ := world
  unfold peerLimit gain
  induction controllers with
  | nil => exact Nat.zero_le _
  | cons first rest ih =>
    simp only [List.cons_append, List.map_cons, List.foldr_cons] at ih ⊢
    omega

end World

/-- A thread whose further calls are lawful, under a limit that the world has room for. -/
structure Thread.Conducted (thread : Thread) (limit : Nat) : Prop where
  conforms : thread.rest.Conforms (Lawful thread.task.limit) (fun _ _ => True) thread.past
  limit_le : thread.task.limit ≤ limit

theorem Thread.conducted_start {task : Task} {limit : Nat} (h : task.limit ≤ limit) :
    (Thread.start task).Conducted limit where
  conforms := Session.Conforms.mono task.procedure_meets (fun _ _ _ hcall => hcall)
    fun _ _ _ _ => trivial
  limit_le := h

theorem Thread.Conducted.mono {thread : Thread} {limit limit' : Nat}
    (h : thread.Conducted limit) (hle : limit ≤ limit') : thread.Conducted limit' :=
  ⟨h.conforms, Nat.le_trans h.limit_le hle⟩

/-- No step lowers the limit on voters. -/
theorem Step.peerLimit_le (h : Step world event later) : world.peerLimit ≤ later.peerLimit := by
  cases h with
  | attach _ => exact World.peerLimit_le_gain _
  | established _ => exact World.peerLimit_le_gain _
  | establish _ _ _ => exact Nat.le_refl _
  | request _ _ => exact Nat.le_refl _
  | exchange _ _ _ => exact Nat.le_refl _

theorem Step.conducted (h : Step world event later)
    (hconducted : ∀ thread ∈ world.threads, thread.Conducted world.peerLimit) :
    ∀ thread ∈ later.threads, thread.Conducted later.peerLimit := by
  have hbegin : ∀ task : Task, task.limit ≤ world.peerLimit →
      ∀ thread ∈ (world.begin task).threads, thread.Conducted (world.begin task).peerLimit := by
    intro task hlimit thread hthread
    rcases List.mem_append.mp hthread with hthread | hthread
    · exact hconducted thread hthread
    · rw [List.mem_singleton.mp hthread]
      exact Thread.conducted_start hlimit
  cases h with
  | attach _ =>
    exact fun thread hthread => (hconducted thread hthread).mono (World.peerLimit_le_gain _)
  | established _ =>
    exact fun thread hthread => (hconducted thread hthread).mono (World.peerLimit_le_gain _)
  | establish quorum uuid constraints => exact hbegin _ (Nat.zero_le _)
  | request hcontroller asked => exact hbegin _ (World.maxPeers_le_peerLimit hcontroller)
  | @exchange index thread call next answer after hthread hrest hanswer =>
    intro other hother
    rcases List.mem_or_eq_of_mem_set hother with hother | rfl
    · exact hconducted other hother
    · obtain ⟨hconforms, hlimit⟩ := hconducted thread (List.mem_of_getElem? hthread)
      rw [hrest] at hconforms
      exact ⟨hconforms.2 answer, hlimit⟩

theorem Reachable.conducted (h : Reachable world) :
    ∀ thread ∈ world.threads, thread.Conducted world.peerLimit :=
  h.induct (fun _ hthread => nomatch hthread) fun _ hconducted hstep => hstep.conducted hconducted

/-- A transaction that takes place is one that its thread may submit. -/
theorem World.Commits.submission {thread : Thread} {ops : List Op}
    (h : world.Commits thread ops later) (hreachable : Reachable world) :
    Submission thread.task.limit thread.past ops := by
  obtain ⟨hthread, ⟨next, hrest⟩, -⟩ := h.cases
  have hconforms := (hreachable.conducted thread hthread).conforms
  rw [hrest] at hconforms
  exact hconforms.1

/-- A step changes no documents but counters, unless a transaction takes place. -/
theorem Step.unchanged_or_commit (h : Step world event later)
    (hconducted : ∀ thread ∈ world.threads, thread.Conducted world.peerLimit) :
    (∀ collection ≠ Layout.sequence, ∀ id,
        later.store.get? collection id = world.store.get? collection id) ∨
      ∃ index thread ops, world.threads[index]? = some thread ∧
        event = .exchanged index ⟨.transact ops, .ok ()⟩ ∧
        Submission thread.task.limit thread.past ops ∧
        world.store.transact ops = .ok later.store := by
  cases h with
  | attach _ => exact .inl fun _ _ _ => rfl
  | established _ => exact .inl fun _ _ _ => rfl
  | establish _ _ _ => exact .inl fun _ _ _ => rfl
  | request _ _ => exact .inl fun _ _ _ => rfl
  | @exchange index thread call next answer after hthread hrest hanswer =>
    have hlawful := (hconducted thread (List.mem_of_getElem? hthread)).conforms
    rw [hrest] at hlawful
    have hlawful := hlawful.1
    cases call with
    | get collection id =>
      obtain ⟨-, rfl⟩ := hanswer
      exact .inl fun _ _ _ => rfl
    | increment collection id field =>
      obtain rfl : collection = Layout.sequence := hlawful
      rcases hanswer with hcount | ⟨-, rfl⟩
      · obtain ⟨-, rfl⟩ := Prod.mk.inj hcount
        exact .inl fun other hother otherId => Store.get?_increment_of_ne _ hother id field otherId
      · exact .inl fun _ _ _ => rfl
    | transact ops =>
      rcases hanswer with ⟨rfl, hcommit⟩ | ⟨-, rfl⟩
      · exact .inr ⟨index, thread, ops, hthread, rfl, hlawful, hcommit⟩
      · exact .inl fun _ _ _ => rfl
    | prechecker =>
      obtain rfl : after = world.store := hanswer
      exact .inl fun _ _ _ => rfl
    | precheck series constraints =>
      obtain rfl : after = world.store := hanswer
      exact .inl fun _ _ _ => rfl

/-- With every step the records change in one of the ways there are. -/
theorem Step.change (h : Step world event later)
    (hconducted : ∀ thread ∈ world.threads, thread.Conducted world.peerLimit)
    (hholds : world.store.Holds records) (hconsistent : records.Consistent) :
    ∃ records', later.store.Holds records' ∧ records.Change later.peerLimit records' := by
  rcases h.unchanged_or_commit hconducted with
    hsame | ⟨index, thread, ops, hthread, -, hops, hcommit⟩
  · have hcollections : ∀ other ∈ [Layout.environments, Layout.machines, Layout.containerRefs,
        Layout.stateServers], other ≠ Layout.sequence := by decide
    refine ⟨records, hholds.congr ?_ ?_, .same⟩
    · exact congrArg Option.isSome (hsame _ (hcollections _ (by simp)) _)
    · intro other hother
      exact hsame other (hcollections other (List.mem_cons_of_mem _ hother))
  · have hlimit := (hconducted thread (List.mem_of_getElem? hthread)).limit_le
    obtain ⟨records', hafter, hchange⟩ := hops.change hholds hconsistent hcommit
    exact ⟨records', hafter, hchange.mono (hlimit.trans h.peerLimit_le)⟩

/-- Every reachable world holds records, and of these everything is true that
is true of the empty ones and kept by every change. -/
theorem Reachable.records_induct (property : Nat → Records → Prop)
    (hempty : property 0 .empty)
    (hmono : ∀ {limit limit' records}, limit ≤ limit' → property limit records →
      property limit' records)
    (hchange : ∀ {limit records later}, records.Consistent → property limit records →
      records.Change limit later → property limit later)
    (h : Reachable world) :
    ∃ records, world.store.Holds records ∧ records.Consistent ∧
      property world.peerLimit records := by
  apply h.induct
  · exact ⟨.empty, holds_empty, Records.consistent_empty, hempty⟩
  · intro world event later hreachable hworld hstep
    obtain ⟨records, hholds, hconsistent, hproperty⟩ := hworld
    obtain ⟨records', hafter, hstepped⟩ := hstep.change hreachable.conducted hholds hconsistent
    exact ⟨records', hafter, hstepped.consistent hconsistent,
      hchange hconsistent (hmono hstep.peerLimit_le hproperty) hstepped⟩

end ControlPlane
