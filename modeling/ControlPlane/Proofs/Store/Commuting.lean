import ControlPlane.Proofs.Store.Writes
import Mathlib.Data.List.Lattice

/-!
# Independent calls commute

Two calls that name no document in common do not notice each other, also where
one of them fails, and where their documents are in one collection.  Each of
them finds its documents as if it came first, for the other has left them as
they were.
-/

namespace ControlPlane.Store

open Json

variable {store : Store} {first second : Write}

/-- Two calls come out the same in either order.  Documents are listed in their order, so the lists
are compared in a store whose ids are ascending. -/
structure Commute (store : Store) (first second : Write) : Prop where
  first_answer : ((store.perform second).2.perform first).1 = (store.perform first).1
  second_answer : ((store.perform first).2.perform second).1 = (store.perform second).1
  get?_eq : ∀ collection id,
    ((store.perform first).2.perform second).2.get? collection id =
      ((store.perform second).2.perform first).2.get? collection id
  list_eq : store.Ordered → ∀ collection,
    ((store.perform first).2.perform second).2.list collection =
      ((store.perform second).2.perform first).2.list collection

/-- A call leaves the documents of an independent one as they were. -/
theorem agreeOn_perform (h : first.named.Disjoint second.named) :
    AgreeOn second.named (store.perform first).2 store :=
  fun _ _ hplace => get?_perform_of_notMem store fun hnamed => h hnamed hplace

/-- Behind an independent call, a call is answered as without it, and makes the same of the
documents that it names. -/
theorem perform_perform (h : first.named.Disjoint second.named) :
    ((store.perform first).2.perform second).1 = (store.perform second).1 ∧
      AgreeOn second.named ((store.perform first).2.perform second).2 (store.perform second).2 :=
  perform_congr (agreeOn_perform h) (List.Subset.refl _)

theorem get?_perform_perform (h : first.named.Disjoint second.named) (collection id : String) :
    ((store.perform first).2.perform second).2.get? collection id =
      ((store.perform second).2.perform first).2.get? collection id := by
  by_cases hsecond : (collection, id) ∈ second.named
  · have hfirst : (collection, id) ∉ first.named := fun hmem => h hmem hsecond
    rw [get?_perform_of_notMem _ hfirst]
    exact (perform_perform h).2 collection id hsecond
  · rw [get?_perform_of_notMem _ hsecond]
    by_cases hfirst : (collection, id) ∈ first.named
    · exact ((perform_perform h.symm).2 collection id hfirst).symm
    · rw [get?_perform_of_notMem _ hfirst, get?_perform_of_notMem _ hfirst,
        get?_perform_of_notMem _ hsecond]

/-- Calls that name no document in common commute.  For how a call is answered, and what it makes
of the documents that it names, depends on what these documents were and on nothing else. -/
theorem independent_writes_commute (store : Store) :
    (∀ first second : Write, first.named.Disjoint second.named → store.Commute first second) ∧
    ∀ (write : Write) (other : Store), AgreeOn write.named store other →
      (store.perform write).1 = (other.perform write).1 ∧
        AgreeOn write.named (store.perform write).2 (other.perform write).2 := by
  refine ⟨?_, fun write other h => perform_congr h (List.Subset.refl _)⟩
  intro first second h
  refine ⟨(perform_perform h.symm).1, (perform_perform h).1, get?_perform_perform h, ?_⟩
  intro hordered
  have hone := (hordered.perform first).perform second
  exact hone.list_eq ((hordered.perform second).perform first) (get?_perform_perform h)

/-- A unit is recorded beside the machine whose counter moves on. -/
def addUnit : Write :=
  .transact [.insert "sequence" "unit" (.object [("_id", .string "unit")])]

/-- Another document of the same collection can be made before or after the counter moves on.  The
counter gives the same number, and the documents are listed in the same order. -/
theorem independent_writes_commute_numbered :
    numbered.Commute addUnit (.increment "sequence" "machine" "counter") ∧
    ((numbered.perform addUnit).2.perform (.increment "sequence" "machine" "counter")).1 =
      .ok (some 41) ∧
    ((numbered.perform (.increment "sequence" "machine" "counter")).2.perform addUnit).2.list
        "sequence" =
      [.object [("_id", .string "machine"), ("counter", .natural 42)],
        .object [("_id", .string "unit")]] ∧
    AgreeOn addUnit.named empty numbered ∧
    (numbered.perform addUnit).1 = (empty.perform addUnit).1 := by
  obtain ⟨hcommute, -⟩ := independent_writes_commute numbered
  obtain ⟨-, hdepends⟩ := independent_writes_commute empty
  have hdisjoint : addUnit.named.Disjoint (Write.increment "sequence" "machine" "counter").named :=
    List.disjoint_singleton.mpr (by decide)
  have hboth := hcommute addUnit _ hdisjoint
  have hordered : numbered.Ordered := ordered_empty.put _ _ _
  have hagree : AgreeOn addUnit.named empty numbered := by
    intro collection id hmem
    obtain ⟨rfl, rfl⟩ : collection = "sequence" ∧ id = "unit" := by
      simpa [addUnit, Write.named, Op.insert] using hmem
    rfl
  exact ⟨hboth, hboth.second_answer.trans rfl, (hboth.list_eq hordered _).symm.trans rfl, hagree,
    (hdepends addUnit numbered hagree).1.symm⟩

end ControlPlane.Store
