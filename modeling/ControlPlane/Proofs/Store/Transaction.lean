import ControlPlane.Proofs.Json.Objects
import ControlPlane.Store.Basic

/-!
# What a transaction does to each document

A transaction that takes place has found all its assertions true of the store
as it was.  Each document is then changed by the operations that name it, in
their order, and by no others.  In a collection that a transaction only
inserts into, the inserted documents are new and have different ids.
-/

namespace ControlPlane

open Json Store

namespace Store.Op

/-- Whether an operation is about the document of a collection with an id. -/
def names (collection id : String) (op : Op) : Bool :=
  op.collection = collection ∧ op.id = id

theorem names_iff {collection id : String} {op : Op} :
    op.names collection id = true ↔ op.collection = collection ∧ op.id = id := by
  simp [names]

theorem not_names_of_collection_ne {collection : String} {op : Op}
    (h : op.collection ≠ collection) (id : String) : ¬op.names collection id = true :=
  fun hnames => h (names_iff.mp hnames).1

theorem not_names_of_id_ne {id : String} {op : Op} (h : op.id ≠ id) (collection : String) :
    ¬op.names collection id = true :=
  fun hnames => h (names_iff.mp hnames).2

/-- The documents that operations insert into a collection, by their ids. -/
def inserted (collection : String) (ops : List Op) : List (String × Value) :=
  ops.filterMap fun op =>
    match op.effect with
    | .insert document => if op.collection = collection then some (op.id, document) else none
    | _ => none

/-- Operations that do nothing to a collection but insert documents into it. -/
def OnlyInsert (collection : String) (ops : List Op) : Prop :=
  ∀ op ∈ ops, op.collection = collection → ∃ document, op.effect = .insert document

theorem inserted_cons_of_insert {collection : String} {op : Op} {document : Value}
    (hcollection : op.collection = collection) (heffect : op.effect = .insert document)
    (ops : List Op) :
    inserted collection (op :: ops) = (op.id, document) :: inserted collection ops := by
  simp [inserted, heffect, hcollection]

theorem inserted_cons_of_ne {collection : String} {op : Op} (h : op.collection ≠ collection)
    (ops : List Op) : inserted collection (op :: ops) = inserted collection ops := by
  rw [inserted, List.filterMap_cons_none]
  · rfl
  · cases op.effect <;> simp [h]

theorem inserted_eq_nil {collection : String} {ops : List Op}
    (h : ∀ op ∈ ops, op.collection ≠ collection) : inserted collection ops = [] := by
  induction ops with
  | nil => rfl
  | cons op rest ih =>
    rw [inserted_cons_of_ne (h op List.mem_cons_self)]
    exact ih fun other hother => h other (List.mem_cons_of_mem _ hother)

theorem inserted_append (collection : String) (xs ys : List Op) :
    inserted collection (xs ++ ys) = inserted collection xs ++ inserted collection ys :=
  List.filterMap_append ..

theorem inserted_flatMap {α : Type} (collection : String) (xs : List α) (f : α → List Op) :
    inserted collection (xs.flatMap f) = xs.flatMap fun x => inserted collection (f x) := by
  induction xs with
  | nil => rfl
  | cons x xs ih => rw [List.flatMap_cons, inserted_append, ih, List.flatMap_cons]

end Store.Op

namespace Store

variable {store after : Store} {ops : List Op}

theorem transact_eq_ok_iff :
    store.transact ops = .ok after ↔
      store.checkFrom 0 ops = .ok () ∧ store.applyFrom 0 ops = .ok after := by
  unfold transact
  cases h : store.checkFrom 0 ops with
  | error failure => simp [bind, Except.bind]
  | ok _ => simp [bind, Except.bind]

/-- The checks succeed just when every assertion holds of the store as it is. -/
theorem checkFrom_eq_ok_iff {index : Nat} :
    store.checkFrom index ops = .ok () ↔
      ∀ op ∈ ops, op.assertion.failure? (store.get? op.collection op.id) = none := by
  induction ops generalizing index with
  | nil => simp [checkFrom]
  | cons op rest ih =>
    rw [checkFrom, List.forall_mem_cons]
    cases h : op.assertion.failure? (store.get? op.collection op.id) with
    | some reason => simp
    | none => simpa using ih

theorem applyFrom_cons_eq_ok {op : Op} {index : Nat}
    (h : store.applyFrom index (op :: ops) = .ok after) :
    ∃ document, op.effect.apply (store.get? op.collection op.id) = .ok document ∧
      (store.put op.collection op.id document).applyFrom (index + 1) ops = .ok after := by
  rw [applyFrom] at h
  split at h
  · cases h
  · next document hdocument => exact ⟨document, hdocument, h⟩

theorem applyFrom_append_eq_ok {rest : List Op} {index : Nat}
    (h : store.applyFrom index (ops ++ rest) = .ok after) :
    ∃ middle, store.applyFrom index ops = .ok middle ∧
      middle.applyFrom (index + ops.length) rest = .ok after := by
  induction ops generalizing store index with
  | nil => exact ⟨store, rfl, h⟩
  | cons op others ih =>
    obtain ⟨document, hdocument, hrest⟩ := applyFrom_cons_eq_ok h
    obtain ⟨middle, hothers, hlast⟩ := ih hrest
    refine ⟨middle, ?_, ?_⟩
    · rw [applyFrom, hdocument]
      exact hothers
    · rw [List.length_cons, Nat.add_comm others.length, ← Nat.add_assoc]
      exact hlast

/-- Each document goes through the effects of the operations that name it, in order. -/
theorem foldlM_effects_eq_ok {index : Nat} (h : store.applyFrom index ops = .ok after)
    (collection id : String) :
    (ops.filter (·.names collection id)).foldlM (fun document op => op.effect.apply document)
      (store.get? collection id) = .ok (after.get? collection id) := by
  induction ops generalizing store index with
  | nil =>
    obtain rfl : store = after := Except.ok.inj h
    rfl
  | cons op rest ih =>
    obtain ⟨document, hdocument, hrest⟩ := applyFrom_cons_eq_ok h
    have hrest := ih hrest
    rw [get?_put] at hrest
    by_cases hnames : op.names collection id = true
    · obtain ⟨rfl, rfl⟩ := Op.names_iff.mp hnames
      rw [if_pos ⟨rfl, rfl⟩] at hrest
      rw [List.filter_cons_of_pos hnames, List.foldlM_cons, hdocument]
      exact hrest
    · rw [List.filter_cons_of_neg hnames]
      rw [if_neg fun heq => hnames (Op.names_iff.mpr ⟨heq.1.symm, heq.2.symm⟩)] at hrest
      exact hrest

theorem foldlM_effects_singleton (before : Option Value) (op : Op) :
    [op].foldlM (fun document op => op.effect.apply document) before = op.effect.apply before :=
  bind_pure _

/-- A document that no operation names is left as it is. -/
theorem get?_eq_of_not_named {index : Nat} (h : store.applyFrom index ops = .ok after)
    {collection id : String} (hnot : ∀ op ∈ ops, op.names collection id = false) :
    after.get? collection id = store.get? collection id := by
  have hfold := foldlM_effects_eq_ok h collection id
  rw [List.filter_eq_nil_iff.mpr fun op hop => by simp [hnot op hop]] at hfold
  exact (Except.ok.inj hfold).symm

theorem get?_eq_of_notMem_collections {index : Nat} (h : store.applyFrom index ops = .ok after)
    {collection : String} (hnot : collection ∉ ops.map (·.collection)) (id : String) :
    after.get? collection id = store.get? collection id := by
  apply get?_eq_of_not_named h
  intro op hop
  rw [← Bool.not_eq_true]
  exact Op.not_names_of_collection_ne (fun heq => hnot (List.mem_map.mpr ⟨op, hop, heq⟩)) id

/-- An effect that updates meets a document and leaves one. -/
theorem isSome_of_apply_update {updates : List Update} {before later : Option Value}
    (h : Effect.apply before (.update updates) = .ok later) :
    before.isSome = true ∧ later.isSome = true := by
  cases before with
  | none => cases h
  | some document =>
    simp only [Effect.apply] at h
    split at h
    · cases h
      exact ⟨rfl, rfl⟩
    · cases h

/-- An effect that inserts meets no document and leaves its own. -/
theorem apply_insert_eq_ok {document : Value} {before later : Option Value}
    (h : Effect.apply before (.insert document) = .ok later) :
    before = none ∧ later = some document := by
  rw [Effect.apply] at h
  split at h
  · cases h
  · split at h
    · cases h
    · next hnone =>
      exact ⟨by simpa using hnone, (Except.ok.inj h).symm⟩

/-- A document that no operation updates or removes stays as it is. -/
theorem get?_eq_of_kept {index : Nat} (h : store.applyFrom index ops = .ok after)
    {collection id : String} {document : Value}
    (hget : store.get? collection id = some document)
    (hkept : ∀ op ∈ ops, op.names collection id = true →
      op.effect ≠ .remove ∧ ¬∃ updates, op.effect = .update updates) :
    after.get? collection id = some document := by
  induction ops generalizing store index with
  | nil =>
    obtain rfl : store = after := Except.ok.inj h
    exact hget
  | cons op rest ih =>
    rw [List.forall_mem_cons] at hkept
    obtain ⟨hfirst, hothers⟩ := hkept
    obtain ⟨document?, heffect, hrest⟩ := applyFrom_cons_eq_ok h
    apply ih hrest _ hothers
    rw [get?_put]
    split
    · next hplace =>
      obtain ⟨rfl, rfl⟩ := hplace
      obtain ⟨hremove, hupdate⟩ := hfirst (Op.names_iff.mpr ⟨rfl, rfl⟩)
      rw [hget] at heffect
      cases hcase : op.effect with
      | nothing =>
        rw [hcase] at heffect
        exact (Except.ok.inj heffect).symm
      | insert value =>
        rw [hcase] at heffect
        cases (apply_insert_eq_ok heffect).1
      | update updates => exact absurd ⟨updates, hcase⟩ hupdate
      | remove => exact absurd hcase hremove
    · exact hget

/-- What inserting does to a collection. -/
structure Inserts (store after : Store) (collection : String)
    (documents : List (String × Value)) : Prop where
  nodup : (documents.map (·.1)).Nodup
  fresh : ∀ id ∈ documents.map (·.1), store.get? collection id = none
  get?_eq : ∀ id, after.get? collection id =
    (Table.get? id documents <|> store.get? collection id)

/-- Documents that are inserted are new and have different ids, and nothing
else happens to the collection. -/
theorem inserts_of_onlyInsert {index : Nat} {collection : String}
    (h : store.applyFrom index ops = .ok after) (honly : Op.OnlyInsert collection ops) :
    Inserts store after collection (Op.inserted collection ops) := by
  induction ops generalizing store index with
  | nil =>
    obtain rfl : store = after := Except.ok.inj h
    exact ⟨List.nodup_nil, by simp [Op.inserted], fun _ => rfl⟩
  | cons op rest ih =>
    obtain ⟨document, hdocument, hrest⟩ := applyFrom_cons_eq_ok h
    have hrest := ih hrest fun other hother => honly other (List.mem_cons_of_mem _ hother)
    by_cases hcollection : op.collection = collection
    · obtain ⟨inserted, heffect⟩ := honly op List.mem_cons_self hcollection
      rw [heffect, hcollection] at hdocument
      obtain ⟨hbefore, rfl⟩ := apply_insert_eq_ok hdocument
      subst hcollection
      -- What comes later finds this document in the store, so it has another id.
      have hput := store.get?_put op.collection op.id op.collection
      have hlater : ∀ id ∈ (Op.inserted op.collection rest).map (·.1),
          id ≠ op.id ∧ store.get? op.collection id = none := by
        intro id hid
        have hnone := hrest.fresh id hid
        rw [hput] at hnone
        by_cases heq : id = op.id
        · simp [heq] at hnone
        · exact ⟨heq, by simpa [heq] using hnone⟩
      rw [Op.inserted_cons_of_insert rfl heffect]
      refine ⟨?_, ?_, ?_⟩
      · rw [List.map_cons, List.nodup_cons]
        exact ⟨fun hmem => (hlater op.id hmem).1 rfl, hrest.nodup⟩
      · intro id hid
        rcases List.mem_cons.mp hid with rfl | hid
        · exact hbefore
        · exact (hlater id hid).2
      · intro id
        rw [hrest.get?_eq, hput, Table.get?]
        by_cases heq : op.id = id
        · subst heq
          have hnone := Table.get?_eq_none fun hmem => (hlater op.id hmem).1 rfl
          simp [hnone]
        · simp [heq, Ne.symm heq]
    · have hsame : ∀ id, (store.put op.collection op.id document).get? collection id =
          store.get? collection id := by
        intro id
        rw [get?_put, if_neg fun heq => hcollection heq.1.symm]
      rw [Op.inserted_cons_of_ne hcollection]
      exact ⟨hrest.nodup, fun id hid => hsame id ▸ hrest.fresh id hid,
        fun id => hsame id ▸ hrest.get?_eq id⟩

/-- An update does not make a document where there is none. -/
theorem get?_put_eq_none {op : Op} {document : Option Value} {collection id : String}
    (hnone : store.get? collection id = none) (hinsert : ¬∃ value, op.effect = .insert value)
    (happly : op.effect.apply (store.get? op.collection op.id) = .ok document) :
    (store.put op.collection op.id document).get? collection id = none := by
  rw [get?_put]
  split
  · next hplace =>
    obtain ⟨rfl, rfl⟩ := hplace
    rw [hnone] at happly
    cases heffect : op.effect with
    | nothing =>
      rw [heffect] at happly
      exact (Except.ok.inj happly).symm
    | insert value => exact absurd ⟨value, heffect⟩ hinsert
    | update updates =>
      rw [heffect] at happly
      cases happly
    | remove =>
      rw [heffect] at happly
      exact (Except.ok.inj happly).symm
  · exact hnone

/-- What was not there before has been inserted. -/
theorem mem_inserted_of_created {index : Nat} {collection id : String}
    (h : store.applyFrom index ops = .ok after) (hnone : store.get? collection id = none)
    (hsome : (after.get? collection id).isSome = true) :
    id ∈ (Op.inserted collection ops).map (·.1) := by
  induction ops generalizing store index with
  | nil =>
    obtain rfl : store = after := Except.ok.inj h
    rw [hnone] at hsome
    cases hsome
  | cons op rest ih =>
    obtain ⟨document, hdocument, hrest⟩ := applyFrom_cons_eq_ok h
    by_cases hinsert : ∃ value, op.effect = .insert value
    · obtain ⟨value, heffect⟩ := hinsert
      by_cases hcollection : op.collection = collection
      · rw [Op.inserted_cons_of_insert hcollection heffect, List.map_cons]
        by_cases hid : op.id = id
        · exact hid ▸ List.mem_cons_self
        · apply List.mem_cons_of_mem
          apply ih hrest
          rw [get?_put, if_neg fun heq => hid heq.2.symm]
          exact hnone
      · rw [Op.inserted_cons_of_ne hcollection]
        apply ih hrest
        rw [get?_put, if_neg fun heq => hcollection heq.1.symm]
        exact hnone
    · have hrecorded := ih hrest (get?_put_eq_none hnone hinsert hdocument)
      by_cases hcollection : op.collection = collection
      · rw [Op.inserted, List.filterMap_cons_none]
        · exact hrecorded
        · cases heffect : op.effect with
          | insert value => exact absurd ⟨value, heffect⟩ hinsert
          | _ => rfl
      · rw [Op.inserted_cons_of_ne hcollection]
        exact hrecorded

end Store

end ControlPlane
