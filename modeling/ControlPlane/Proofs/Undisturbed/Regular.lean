import ControlPlane.Proofs.Machine.Places
import ControlPlane.Proofs.Run.Counters
import ControlPlane.Proofs.Run.Integrity
import ControlPlane.Proofs.Undisturbed.Reading

/-!
# Stores in order

What a run leaves is in order for whatever comes next: documents have the forms
of their records, the records agree with one another, and the ids whose numbers
the counters have not given yet are free.  To draw a number keeps this.
-/

namespace ControlPlane

open Json Store

/-- A store of an environment in which everything is in order. -/
structure Store.Regular (store : Store) (environment : Environment) (records : Records) :
    Prop where
  formed : store.Formed
  governed : store.Governed (some environment)
  holds : store.Holds records
  consistent : records.Consistent
  paired : ∀ id, (records.children? id).isSome = (records.machine? id).isSome
  free : ∀ {counter : String} {number : Nat} {id : String},
    MachineId.Numbered counter number id → store.count counter ≤ number →
      ∀ place ∈ Machine.allPlaces id, store.get? place.1 place.2 = none

/-- Every reachable world with an environment is in order. -/
theorem Reachable.regular {world : World} (h : Reachable world)
    (hlife : world.store.life?.isSome = true) :
    ∃ environment records, world.store.Regular environment records := by
  obtain ⟨environment?, hgoverned⟩ := h.governed
  rw [hgoverned.life?_eq, Option.isSome_map] at hlife
  obtain ⟨environment, rfl⟩ := Option.isSome_iff_exists.mp hlife
  obtain ⟨records, hholds, hconsistent, -⟩ := h.records_induct (fun _ _ => True) trivial
    (fun _ _ => trivial) fun _ _ _ => trivial
  refine ⟨environment, records, h.formed, hgoverned, hholds, hconsistent, ?_, ?_⟩
  · intro id
    have hpaired := h.isSome_containerRefs id
    rwa [hholds.children, hholds.machine, Option.isSome_map, Option.isSome_map] at hpaired
  · intro counter number id hnumbered hcount place hplace
    exact h.get?_eq_none (h.get?_eq_none_of_numbered hnumbered hcount) hplace

/-- In a reachable world with an environment that is alive everything is in order, and the
environment has constraints. -/
theorem Reachable.regular_of_alive {world : World} (h : Reachable world)
    (halive : world.store.life? = some .alive) :
    ∃ environment records defaults, world.store.Regular environment records ∧
      environment.life = .alive ∧ world.store.constraints? = some defaults := by
  obtain ⟨environment, records, hregular⟩ := h.regular (by rw [halive]; rfl)
  obtain ⟨defaults, hdefaults⟩ := hregular.governed.exists_constraints hregular.formed
  rw [hregular.governed.life?_eq] at halive
  exact ⟨environment, records, defaults, hregular, Option.some.inj halive, hdefaults⟩

/-- From one counter some numbers have been drawn, and nothing else has happened. -/
structure Store.Draws (store after : Store) (counter : String) (amount : Nat) : Prop where
  count : after.count counter = store.count counter + amount
  same : ∀ collection id, ¬(collection = Layout.sequence ∧ id = counter) →
    after.get? collection id = store.get? collection id

namespace Store.Draws

variable {store middle after : Store} {counter : String} {amount amount' : Nat}

theorem refl (store : Store) (counter : String) : store.Draws store counter 0 where
  count := rfl
  same _ _ _ := rfl

theorem trans (h : store.Draws middle counter amount) (h' : middle.Draws after counter amount') :
    store.Draws after counter (amount + amount') where
  count := by
    rw [h'.count, h.count]
    exact Nat.add_assoc _ _ _
  same collection id hplace := (h'.same collection id hplace).trans (h.same collection id hplace)

/-- Only counters are counted in. -/
theorem get?_eq (h : store.Draws after counter amount) {collection : String}
    (hcollection : collection ≠ Layout.sequence) (id : String) :
    after.get? collection id = store.get? collection id :=
  h.same collection id fun hplace => hcollection hplace.1

theorem count_of_ne (h : store.Draws after counter amount) {other : String}
    (hother : other ≠ counter) : after.count other = store.count other :=
  count_congr (h.same _ _ fun hplace => hother hplace.2)

theorem count_le (h : store.Draws after counter amount) (other : String) :
    store.count other ≤ after.count other := by
  by_cases hother : other = counter
  · subst hother
    have hcount := h.count
    omega
  · exact Nat.le_of_eq (h.count_of_ne hother).symm

/-- What was free when numbers were drawn is free afterwards. -/
theorem free (h : store.Draws after counter amount) {id : String}
    (hfree : ∀ place ∈ Machine.allPlaces id, store.get? place.1 place.2 = none) :
    ∀ place ∈ Machine.allPlaces id, after.get? place.1 place.2 = none := by
  have hown : Layout.sequence ∉ Layout.containerRefs :: Machine.ownCollections := by decide
  intro place hplace
  rw [h.get?_eq (ne_of_mem_of_not_mem (Machine.fst_mem_of_mem_allPlaces hplace) hown)]
  exact hfree place hplace

theorem constraints?_eq (h : store.Draws after counter amount) :
    after.constraints? = store.constraints? := by
  have hconstraints : Layout.constraints ≠ Layout.sequence := by decide
  rw [constraints?, constraints?, record?, record?, h.get?_eq hconstraints]

end Store.Draws

/-- A counter gives its number, and moves on. -/
theorem Store.Formed.draw {store : Store} (h : store.Formed) (counter : String) :
    ∃ after, store.Draws after counter 1 ∧ after.Formed ∧
      ∀ {μ : Type} (advisor : Advisor μ) (memory : μ),
        advisor.perform (nextNumber counter) (store, memory) =
          (.ok (store.count counter), after, memory) := by
  obtain ⟨number, hnumber, hformed⟩ := h.increment counter
  let counted := store.increment Layout.sequence counter "counter"
  have hcounted : (counted.1, counted.2) = store.increment Layout.sequence counter "counter" := rfl
  rcases count_increment hcounted with ⟨hanswer, hcount⟩ | ⟨⟨failure, hfailure⟩, -⟩
  · refine ⟨counted.2, ⟨hcount, ?_⟩, hformed, ?_⟩
    · intro collection id hplace
      exact get?_increment_of_place_ne store hplace "counter"
    · intro μ advisor memory
      unfold nextNumber
      rw [Advisor.perform_inContext, Advisor.perform_bind_ok (Advisor.perform_ask _)]
      change ((advisor.perform (Procedure.answered counted.1) (counted.2, memory)).1.mapError _,
        (advisor.perform (Procedure.answered counted.1) (counted.2, memory)).2) = _
      rw [hanswer]
      rfl
  · cases hnumber.symm.trans hfailure

namespace Store.Regular

variable {store after : Store} {environment : Environment} {records : Records}
  {counter : String} {amount : Nat}

/-- A store stays in order when numbers are drawn. -/
theorem draws (h : store.Regular environment records) (hdraws : store.Draws after counter amount)
    (hformed : after.Formed) : after.Regular environment records where
  formed := hformed
  governed := by
    apply h.governed.congr
    intro collection hcollection
    exact hdraws.get?_eq (ne_of_mem_of_not_mem hcollection (by decide))
  holds := by
    have henvironments : Layout.environments ≠ Layout.sequence := by decide
    apply h.holds.congr
    · rw [hdraws.get?_eq henvironments]
    · intro collection hcollection
      exact hdraws.get?_eq (ne_of_mem_of_not_mem hcollection (by decide))
  consistent := h.consistent
  paired := h.paired
  free hnumbered hcount :=
    hdraws.free (h.free hnumbered (Nat.le_trans (hdraws.count_le _) hcount))

end Store.Regular

theorem World.life?_settled : settled.store.life? = some .alive := by
  decide +kernel

/-- In the constrained world the environment is alive and has constraints, and there are three root
machines. -/
theorem World.constrained_alive :
    constrained.store.life? = some .alive ∧ constrained.store.constraints? = some common ∧
      constrained.store.count MachineId.rootCounter = 3 := by
  decide +kernel

end ControlPlane
