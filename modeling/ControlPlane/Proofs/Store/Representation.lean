import ControlPlane.Proofs.Store.Writes
import ControlPlane.Proofs.Text.ByteOrder

/-!
# What a store always looks like

A store that has come out of calls, answered or failed, holds objects only, and
the ids of each collection ascend.  No call can break this.  So a collection is
listed in the order of the bytes of the ids with every document once, and no
call ever meets a document that is not an object.
-/

namespace ControlPlane.Store

open Json

variable {store : Store}

/-- All documents are objects and the ids ascend. -/
structure WellFormed (store : Store) : Prop where
  objects : store.HoldsObjects
  ordered : store.Ordered

/-- The store after calls that are made one after the other. -/
def after (store : Store) (writes : List Write) : Store :=
  writes.foldl (fun store write => (store.perform write).2) store

/-! ## No call breaks it -/

theorem wellFormed_empty : empty.WellFormed :=
  ⟨holdsObjects_empty, ordered_empty⟩

theorem WellFormed.perform (h : store.WellFormed) (write : Write) :
    (store.perform write).2.WellFormed :=
  ⟨perform_closed HoldsObjects h.objects h.objects.transact h.objects.increment write,
    h.ordered.perform write⟩

/-- What one call keeps, any number of calls keep. -/
theorem WellFormed.after (h : store.WellFormed) (writes : List Write) :
    (store.after writes).WellFormed := by
  induction writes generalizing store with
  | nil => exact h
  | cons write rest ih => exact ih (h.perform write)

/-! ## How a collection is listed -/

/-- The ids of a collection, in the order in which its documents are listed. -/
def ids (store : Store) (collection : String) : List String :=
  (store.collection collection).map (·.1)

/-- A collection is listed with every document once, in the order of the bytes of the ids. -/
structure ListsInByteOrder (store : Store) (collection : String) (ids : List String) : Prop where
  ascending : ids.Pairwise fun x y => Text.bytes x < Text.bytes y
  mem_iff : ∀ id, id ∈ ids ↔ (store.get? collection id).isSome = true
  list_eq : (store.list collection).map some = ids.map (store.get? collection)

theorem Ordered.listsInByteOrder (h : store.Ordered) (collection : String) :
    store.ListsInByteOrder collection (store.ids collection) := by
  have hentry : ∀ entry ∈ store.collection collection,
      store.get? collection entry.1 = some entry.2 :=
    fun entry hmem => (h collection).mem_iff_get?.mp hmem
  refine ⟨?_, ?_, ?_⟩
  · rw [ids, List.pairwise_map]
    exact (h collection).imp fun hlt => Text.bytes_lt_bytes hlt
  · intro id
    constructor
    · intro hmem
      obtain ⟨entry, hfound, rfl⟩ := List.mem_map.mp hmem
      rw [hentry entry hfound]
      rfl
    · intro hsome
      obtain ⟨document, hget⟩ := Option.isSome_iff_exists.mp hsome
      exact List.mem_map.mpr ⟨(id, document), Table.mem_of_get? hget, rfl⟩
  · rw [list, ids, List.map_map, List.map_map]
    exact List.map_congr_left fun entry hmem => (hentry entry hmem).symm

/-! ## Misfits that do not occur -/

/-- Updates that get stuck do so at a field. -/
theorem Update.Stuck.exists_field {document : Value} {updates : List Update} {cause : Misfit}
    (h : Stuck document updates cause) : ∃ field, cause = .fieldNotAnArray field := by
  induction h with
  | here rest hunfit =>
    cases hunfit with
    | addToSet values htakes => exact ⟨_, rfl⟩
    | push values htakes => exact ⟨_, rfl⟩
  | later hfits hrest ih => exact ih

theorem Effect.Blocked.ne_documentNotAnObject {document : Option Value} {effect : Effect}
    {cause : Misfit} (h : Blocked document effect (.misfit cause)) :
    cause ≠ .documentNotAnObject := by
  rintro rfl
  cases h with
  | unfit hstuck =>
    obtain ⟨field, hfield⟩ := hstuck.exists_field
    cases hfield

theorem HoldsObjects.transact_fits (h : store.HoldsObjects) (ops : List Op) (index : Nat)
    (collection id : String) :
    store.transact ops ≠ .error (.invalidOp index collection id .documentNotAnObject) := by
  intro herror
  rw [Store.transact] at herror
  rcases store.checkFrom_cases 0 ops with ⟨hok, -⟩ | ⟨_, _, _, -, hcheck⟩
  · rw [hok] at herror
    rcases applyFrom_cases h 0 ops with ⟨-, _, happly, -⟩ | ⟨_, _, obstacle, hfirst, happly⟩
    · cases happly.symm.trans herror
    · have hobstacle := happly.symm.trans herror
      cases obstacle with
      | occupied => cases hobstacle
      | misfit cause =>
        cases hobstacle
        exact hfirst.blocks.ne_documentNotAnObject rfl
  · rw [hcheck] at herror
    cases herror

/-- No call on a store of objects fails because a document is not an object. -/
theorem HoldsObjects.perform_fits (h : store.HoldsObjects) (write : Write) (index : Nat)
    (collection id : String) :
    (store.perform write).1 ≠ .error (.invalidOp index collection id .documentNotAnObject) := by
  intro herror
  cases write with
  | transact ops =>
    cases htransact : store.transact ops with
    | ok after =>
      rw [perform_transact_of_ok htransact] at herror
      cases herror
    | error failure =>
      rw [perform_transact_of_error htransact] at herror
      obtain rfl := Except.error.inj herror
      exact h.transact_fits ops index collection id htransact
  | increment name place field =>
    rw [perform_increment] at herror
    cases hanswer : (store.increment name place field).1 with
    | ok number =>
      rw [hanswer] at herror
      cases herror
    | error failure =>
      rw [hanswer] at herror
      obtain rfl := Except.error.inj herror
      obtain ⟨cause, heq, hshape⟩ := exists_misfit_of_increment hanswer
      cases heq
      obtain ⟨document, hget, hobject⟩ := hshape rfl
      cases (h _ _ document hget).symm.trans hobject

/-- However a store has been written to, all its documents are objects; a collection is listed with
every document once, in the order of the bytes of the ids; and the next call does not fail because
a document is not an object. -/
theorem objects_in_byte_order (writes : List Write) :
    (empty.after writes).HoldsObjects ∧
    (∀ collection, ∃ ids, (empty.after writes).ListsInByteOrder collection ids) ∧
    ∀ write index collection id,
      ((empty.after writes).perform write).1 ≠
        .error (.invalidOp index collection id .documentNotAnObject) := by
  have hformed := wellFormed_empty.after writes
  exact ⟨hformed.objects, fun collection => ⟨_, hformed.ordered.listsInByteOrder collection⟩,
    hformed.objects.perform_fits⟩

end ControlPlane.Store
