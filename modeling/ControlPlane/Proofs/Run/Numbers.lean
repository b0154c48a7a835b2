import ControlPlane.Proofs.Machine.Identity
import ControlPlane.Proofs.Run.Requests

/-!
# The numbers that a request draws

Every new root machine has a number of its own, which is drawn for it after
those of the machines that are planned before it.  So where a counter gives no
number twice, no two machines of a batch have the same id.
-/

namespace ControlPlane

open Json Store Procedure

/-- The number that an exchange draws from a counter. -/
def Exchange.drawn? (counter : String) : Exchange → Option Nat
  | ⟨.increment collection id field, .ok number⟩ =>
    if collection = Layout.sequence ∧ id = counter ∧ field = "counter" then some number else none
  | _ => none

/-- The numbers that have been drawn from a counter, the first one first. -/
def History.drawn (past : History) (counter : String) : List Nat :=
  past.filterMap (·.drawn? counter)

/-- Plans of root machines that have numbers of their own among those that were drawn. -/
def CreationPlan.Numbered (plans : List CreationPlan) (past : History) : Prop :=
  ∃ numbers : List Nat, plans.map (·.machine.id) = numbers.map MachineId.root ∧
    numbers.Sublist (past.drawn MachineId.rootCounter)

namespace History

variable {past later : History}

theorem drawn_append (past later : History) (counter : String) :
    drawn (past ++ later) counter = past.drawn counter ++ later.drawn counter :=
  List.filterMap_append ..

theorem drawn_sublist (hextend : past <+: later) (counter : String) :
    (past.drawn counter).Sublist (later.drawn counter) :=
  hextend.sublist.filterMap _

theorem drawn_increment (past : History) (counter : String) (number : Nat) :
    drawn (past ++ [⟨.increment Layout.sequence counter "counter", .ok number⟩]) counter =
      past.drawn counter ++ [number] := by
  rw [drawn_append]
  simp [drawn, Exchange.drawn?]

end History

variable {limit : Nat} {past later : History}

/-- A number that is drawn is the last one. -/
theorem nextNumber_meets_last (counter : String) :
    Meets (Lawful limit) past (nextNumber counter) fun later number =>
      later = past ++ [⟨.increment Layout.sequence counter "counter", .ok number⟩] := by
  unfold nextNumber
  apply Meets.inContext
  apply (meets_ask rfl).bind
  rintro asked answer - rfl
  cases answer with
  | ok number => exact meets_pure rfl
  | error failure => exact meets_throw failure.toError

theorem MachineId.nextRoot_meets_last :
    Meets (Lawful limit) past nextRoot fun later id => ∃ number, id = root number ∧
      later = past ++ [⟨.increment Layout.sequence rootCounter "counter", .ok number⟩] := by
  apply Meets.map
  apply (nextNumber_meets_last rootCounter).mono
  rintro later number - rfl
  exact ⟨number, rfl, rfl⟩

namespace CreationPlan

/-- The number of a root machine is drawn after all that has been drawn before. -/
theorem root_meets_number (raw : Template) :
    Meets (Lawful limit) past (root raw) fun later plan =>
      ∃ number, plan.machine.id = MachineId.root number ∧
        (past.drawn MachineId.rootCounter ++ [number]).Sublist
          (later.drawn MachineId.rootCounter) := by
  have hdraw : ∀ (template : Template) (later : History), past <+: later →
      Meets (Lawful limit) later (do return ofRoot template (← MachineId.nextRoot))
        fun later plan => ∃ number, plan.machine.id = MachineId.root number ∧
          (past.drawn MachineId.rootCounter ++ [number]).Sublist
            (later.drawn MachineId.rootCounter) := by
    intro template later hextend
    apply MachineId.nextRoot_meets_last.bind
    rintro drawn id - ⟨number, rfl, rfl⟩
    apply meets_pure
    refine ⟨number, rfl, ?_⟩
    rw [History.drawn_increment]
    exact (History.drawn_sublist hextend MachineId.rootCounter).append_right [number]
  unfold root
  apply (raw.effective_meets true).bind
  intro checked template hchecked _
  split
  · apply (precheck_meets template.series template.constraints).bind
    intro later _ hlater _
    exact hdraw template later (hchecked.trans hlater)
  · exact hdraw template checked hchecked

/-- The numbers of root machines are drawn in the order of their plans. -/
theorem roots_meets_numbers (raws : List Template) :
    Meets (Lawful limit) past (raws.mapM root) fun later plans =>
      ∃ numbers : List Nat, plans.map (·.machine.id) = numbers.map MachineId.root ∧
        (past.drawn MachineId.rootCounter ++ numbers).Sublist
          (later.drawn MachineId.rootCounter) := by
  induction raws generalizing past with
  | nil =>
    apply meets_pure
    refine ⟨[], rfl, ?_⟩
    rw [List.append_nil]
  | cons raw rest ih =>
    rw [List.mapM_cons]
    apply (root_meets_number raw).bind
    rintro middle plan - ⟨number, hid, hfirst⟩
    apply ih.bind
    rintro later plans - ⟨numbers, hids, hrest⟩
    apply meets_pure
    refine ⟨number :: numbers, ?_, ?_⟩
    · rw [List.map_cons, List.map_cons, hid, hids]
    · have hboth := hfirst.append_right numbers
      rw [List.append_assoc] at hboth
      exact hboth.trans hrest

theorem roots_meets_numbered (raws : List Template) :
    Meets (Lawful limit) past (raws.mapM root) fun later plans => Numbered plans later := by
  apply (roots_meets_numbers raws).mono
  rintro later plans - ⟨numbers, hids, hnumbers⟩
  exact ⟨numbers, hids, (List.sublist_append_right _ _).trans hnumbers⟩

variable {plans : List CreationPlan}

theorem Numbered.mono (h : Numbered plans past) (hextend : past <+: later) :
    Numbered plans later := by
  obtain ⟨numbers, hids, hnumbers⟩ := h
  exact ⟨numbers, hids, hnumbers.trans (History.drawn_sublist hextend _)⟩

/-- Where no number is drawn twice, the ids of the plans are different. -/
theorem Numbered.nodup (h : Numbered plans past)
    (hdrawn : (past.drawn MachineId.rootCounter).Nodup) :
    (plans.map (·.machine.id)).Nodup := by
  obtain ⟨numbers, hids, hnumbers⟩ := h
  rw [hids]
  apply (hdrawn.sublist hnumbers).map
  intro number number' heq
  exact MachineId.root_inj heq

end CreationPlan

end ControlPlane
