import ControlPlane.Proofs.Session.Preparation
import ControlPlane.Proofs.Store.Counting
import ControlPlane.Proofs.Store.Transaction

/-!
# Why a transaction is aborted

A transaction is aborted by an assertion that fails, or by a document that is
to be inserted where there is one.  What does not fit in an operation makes it
invalid, which is another matter.
-/

namespace ControlPlane

open Json Store

namespace Store

variable {store : Store} {ops : List Op} {failure : StoreError}

/-- The places into which operations insert documents, by collection and id. -/
def Op.places (ops : List Op) : List (String × String) :=
  ops.filterMap fun op =>
    match op.effect with
    | .insert _ => some (op.collection, op.id)
    | _ => none

theorem Op.places_cons_of_insert {op : Op} {document : Value}
    (h : op.effect = .insert document) (rest : List Op) :
    places (op :: rest) = (op.collection, op.id) :: places rest := by
  simp [places, h]

theorem Op.places_cons_of_not_insert {op : Op} (h : ¬∃ document, op.effect = .insert document)
    (rest : List Op) : places (op :: rest) = places rest := by
  rw [places, List.filterMap_cons_none]
  · rfl
  · cases heffect : op.effect with
    | insert document => exact absurd ⟨document, heffect⟩ h
    | _ => rfl

theorem Op.places_append (xs ys : List Op) : places (xs ++ ys) = places xs ++ places ys :=
  List.filterMap_append ..

/-- Only an insertion finds its place occupied. -/
theorem exists_insert_of_occupied {effect : Effect} {document : Option Value}
    (h : effect.apply document = .error .occupied) :
    (∃ value, effect = .insert value) ∧ document.isSome = true := by
  cases effect with
  | nothing => cases h
  | insert value =>
    refine ⟨⟨value, rfl⟩, ?_⟩
    rw [Effect.apply] at h
    split at h
    · cases h
    · split at h
      · next hsome => exact hsome
      · cases h
  | update updates =>
    cases document with
    | none => cases h
    | some value =>
      simp only [Effect.apply] at h
      split at h
      · cases h
      · cases h
  | remove => cases h

/-- Effects do not abort where all inserted documents are new and have different places. -/
theorem isAborted_of_applyFrom {index : Nat} (h : store.applyFrom index ops = .error failure)
    (hnodup : (Op.places ops).Nodup)
    (hnew : ∀ place ∈ Op.places ops, store.get? place.1 place.2 = none) :
    failure.isAborted = false := by
  induction ops generalizing store index with
  | nil => cases h
  | cons op rest ih =>
    rw [applyFrom] at h
    by_cases hinsert : ∃ document, op.effect = .insert document
    · obtain ⟨value, heffect⟩ := hinsert
      rw [Op.places_cons_of_insert heffect, List.nodup_cons] at hnodup
      rw [Op.places_cons_of_insert heffect, List.forall_mem_cons] at hnew
      have hnone : store.get? op.collection op.id = none := hnew.1
      rw [heffect, hnone] at h
      split at h
      · next obstacle hobstacle =>
        cases h
        cases obstacle with
        | occupied => cases (exists_insert_of_occupied hobstacle).2
        | misfit cause => rfl
      · next document hdocument =>
        apply ih h hnodup.2
        intro place hplace
        rw [get?_put, if_neg]
        · exact hnew.2 place hplace
        · rintro ⟨hcollection, hid⟩
          have hsame : place = (op.collection, op.id) := Prod.ext hcollection hid
          exact hnodup.1 (hsame ▸ hplace)
    · rw [Op.places_cons_of_not_insert hinsert] at hnodup hnew
      split at h
      · next obstacle hobstacle =>
        cases h
        cases obstacle with
        | occupied => exact absurd (exists_insert_of_occupied hobstacle).1 hinsert
        | misfit cause => rfl
      · next document hdocument =>
        apply ih h hnodup
        intro place hplace
        exact get?_put_eq_none (hnew place hplace) hinsert hdocument

/-- A transaction all of whose assertions hold is not aborted, if all inserted documents are new
and have different places. -/
theorem isAborted_of_transact (h : store.transact ops = .error failure)
    (hassertions : ∀ op ∈ ops, op.assertion.failure? (store.get? op.collection op.id) = none)
    (hnodup : (Op.places ops).Nodup)
    (hnew : ∀ place ∈ Op.places ops, store.get? place.1 place.2 = none) :
    failure.isAborted = false := by
  have hcheck : store.checkFrom 0 ops = .ok () := checkFrom_eq_ok_iff.mpr hassertions
  have happly : store.applyFrom 0 ops = .error failure := by
    rw [transact, hcheck] at h
    exact h
  exact isAborted_of_applyFrom happly hnodup hnew

/-- The operation inserts a document, and asserts that there is none. -/
def Op.IsInsertion (op : Op) : Prop :=
  ∃ collection id document, op = .insert collection id document

theorem Op.mem_places_of_isInsertion {op : Op} (hop : op ∈ ops) (hinsert : op.IsInsertion) :
    (op.collection, op.id) ∈ places ops := by
  obtain ⟨collection, id, document, rfl⟩ := hinsert
  exact List.mem_filterMap.mpr ⟨_, hop, rfl⟩

/-- A transaction that is aborted has an operation whose assertion fails, if all inserted documents
are new and have different places. -/
theorem exists_failure_of_isAborted (h : store.transact ops = .error failure)
    (haborted : failure.isAborted = true) (hnodup : (Op.places ops).Nodup)
    (hnew : ∀ place ∈ Op.places ops, store.get? place.1 place.2 = none) :
    ∃ op ∈ ops, ¬op.IsInsertion ∧
      op.assertion.failure? (store.get? op.collection op.id) ≠ none := by
  by_contra hnone
  push Not at hnone
  have hassertions : ∀ op ∈ ops,
      op.assertion.failure? (store.get? op.collection op.id) = none := by
    intro op hop
    by_cases hinsert : op.IsInsertion
    · rw [hnew _ (Op.mem_places_of_isInsertion hop hinsert)]
      obtain ⟨collection, id, document, rfl⟩ := hinsert
      rfl
    · exact hnone op hop hinsert
  rw [isAborted_of_transact h hassertions hnodup hnew] at haborted
  cases haborted

/-- Counting has nothing to abort. -/
theorem isAborted_of_increment {name id field : String}
    (h : (store.increment name id field).1 = .error failure) : failure.isAborted = false := by
  obtain ⟨cause, rfl, -⟩ := exists_misfit_of_increment h
  rfl

end Store

end ControlPlane
