import ControlPlane.Proofs.Store.Folding

/-!
# Calls that write

A store is written to by transactions and by increments.  Either names certain
documents, and leaves all others as they are.  What a call finds, and so how it
is answered and what it makes of the documents that it names, depends on these
documents alone.  Nor does a call disturb the ascending order of the ids.
-/

namespace ControlPlane.Store

open Json

/-- A call that writes. -/
inductive Write where
  | transact (ops : List Op)
  | increment (collection id field : String)

/-- The documents that a call names, by collection and id. -/
def Write.named : Write → List (String × String)
  | transact ops => ops.map fun op => (op.collection, op.id)
  | increment collection id _ => [(collection, id)]

/-- The answer to a call and the store after it, where nothing else happens to the store.  Only an
increment is answered with a number. -/
def perform (store : Store) : Write → Except StoreError (Option Nat) × Store
  | .transact ops =>
    let (answer, shared) := SharedStore.transact { store } ops
    (answer.map fun _ => none, shared.store)
  | .increment collection id field =>
    let (answer, shared) := SharedStore.increment { store } collection id field
    (answer.map some, shared.store)

/-- Two stores have the same documents in certain places. -/
def AgreeOn (places : List (String × String)) (store other : Store) : Prop :=
  ∀ collection id, (collection, id) ∈ places →
    store.get? collection id = other.get? collection id

/-- The documents of each collection have ascending ids, as in any map that is sorted by them. -/
def Ordered (store : Store) : Prop :=
  ∀ name, Table.Ascending (store.collection name)

variable {store other after : Store} {places : List (String × String)} {ops : List Op}
  {write : Write} {collection id : String}

theorem perform_increment (store : Store) (collection id field : String) :
    store.perform (.increment collection id field) =
      ((store.increment collection id field).1.map some,
        (store.increment collection id field).2) := rfl

theorem perform_transact_of_ok (h : store.transact ops = .ok after) :
    store.perform (.transact ops) = (.ok none, after) := by
  change ((SharedStore.commitOwn { store } ops).1.map fun _ => none,
    (SharedStore.commitOwn { store } ops).2.store) = _
  rw [SharedStore.commitOwn, h]
  rfl

theorem perform_transact_of_error {failure : StoreError}
    (h : store.transact ops = .error failure) :
    store.perform (.transact ops) = (.error failure, store) := by
  change ((SharedStore.commitOwn { store } ops).1.map fun _ => none,
    (SharedStore.commitOwn { store } ops).2.store) = _
  rw [SharedStore.commitOwn, h]
  rfl

/-- What every transaction that takes place keeps, and every increment, every call keeps. -/
theorem perform_closed (kept : Store → Prop) (h : kept store)
    (htransact : ∀ {ops : List Op} {after : Store}, store.transact ops = .ok after → kept after)
    (hincrement : ∀ collection id field, kept (store.increment collection id field).2)
    (write : Write) : kept (store.perform write).2 := by
  cases write with
  | transact ops =>
    cases hcommit : store.transact ops with
    | error failure =>
      rw [perform_transact_of_error hcommit]
      exact h
    | ok after =>
      rw [perform_transact_of_ok hcommit]
      exact htransact hcommit
  | increment collection id field => exact hincrement collection id field

/-! ## What is left as it is -/

/-- A call leaves the documents that it does not name as they are. -/
theorem get?_perform_of_notMem (store : Store) (h : (collection, id) ∉ write.named) :
    (store.perform write).2.get? collection id = store.get? collection id := by
  cases write with
  | transact ops =>
    cases htransact : store.transact ops with
    | error failure => rw [perform_transact_of_error htransact]
    | ok after =>
      rw [perform_transact_of_ok htransact]
      apply get?_eq_of_not_named (transact_eq_ok_iff.mp htransact).2
      intro op hop
      rw [← Bool.not_eq_true, Op.names_iff]
      rintro ⟨rfl, rfl⟩
      exact h (List.mem_map.mpr ⟨op, hop, rfl⟩)
  | increment name place field =>
    rw [perform_increment]
    apply store.get?_increment_of_place_ne
    rintro ⟨rfl, rfl⟩
    exact h List.mem_cons_self

/-! ## What a call depends on -/

theorem AgreeOn.put (h : AgreeOn places store other) (collection id : String)
    (document : Option Value) :
    AgreeOn places (store.put collection id document) (other.put collection id document) := by
  intro name place hplace
  rw [get?_put, get?_put]
  split
  · rfl
  · exact h name place hplace

/-- Assertions about documents that two stores have in common hold of both, or fail of both. -/
theorem checkFrom_congr (h : AgreeOn places store other) (index : Nat)
    (hops : ∀ op ∈ ops, (op.collection, op.id) ∈ places) :
    store.checkFrom index ops = other.checkFrom index ops := by
  induction ops generalizing index with
  | nil => rfl
  | cons op rest ih =>
    obtain ⟨hop, hrest⟩ := List.forall_mem_cons.mp hops
    rw [checkFrom, checkFrom, h _ _ hop, ih (index + 1) hrest]

/-- Effects on documents that two stores have in common leave documents in common, or fail in both
for the same reason. -/
theorem applyFrom_congr (h : AgreeOn places store other) (index : Nat)
    (hops : ∀ op ∈ ops, (op.collection, op.id) ∈ places) :
    (∃ after otherAfter, store.applyFrom index ops = .ok after ∧
        other.applyFrom index ops = .ok otherAfter ∧ AgreeOn places after otherAfter) ∨
      ∃ failure, store.applyFrom index ops = .error failure ∧
        other.applyFrom index ops = .error failure := by
  induction ops generalizing store other index with
  | nil => exact .inl ⟨store, other, rfl, rfl, h⟩
  | cons op rest ih =>
    obtain ⟨hop, hrest⟩ := List.forall_mem_cons.mp hops
    rw [applyFrom, applyFrom, h _ _ hop]
    cases op.effect.apply (other.get? op.collection op.id) with
    | error obstacle => exact .inr ⟨_, rfl, rfl⟩
    | ok document => exact ih (h.put _ _ document) (index + 1) hrest

theorem transact_congr (h : AgreeOn places store other)
    (hops : ∀ op ∈ ops, (op.collection, op.id) ∈ places) :
    (∃ after otherAfter, store.transact ops = .ok after ∧
        other.transact ops = .ok otherAfter ∧ AgreeOn places after otherAfter) ∨
      ∃ failure, store.transact ops = .error failure ∧
        other.transact ops = .error failure := by
  rw [transact, transact, checkFrom_congr h 0 hops]
  cases other.checkFrom 0 ops with
  | error failure => exact .inr ⟨failure, rfl, rfl⟩
  | ok _ => exact applyFrom_congr h 0 hops

/-- A call that names nothing but documents that two stores have in common has the same answer in
both, and leaves documents in common. -/
theorem perform_congr (h : AgreeOn places store other) (hnamed : write.named ⊆ places) :
    (store.perform write).1 = (other.perform write).1 ∧
      AgreeOn places (store.perform write).2 (other.perform write).2 := by
  cases write with
  | transact ops =>
    have hops : ∀ op ∈ ops, (op.collection, op.id) ∈ places :=
      fun op hop => hnamed (List.mem_map.mpr ⟨op, hop, rfl⟩)
    rcases transact_congr h hops with ⟨after, otherAfter, hok, hother, hagree⟩ | ⟨_, hfail, hother⟩
    · rw [perform_transact_of_ok hok, perform_transact_of_ok hother]
      exact ⟨rfl, hagree⟩
    · rw [perform_transact_of_error hfail, perform_transact_of_error hother]
      exact ⟨rfl, h⟩
  | increment name place field =>
    have hsame := h name place (hnamed List.mem_cons_self)
    obtain ⟨hanswer, hcounted⟩ := increment_congr hsame field
    refine ⟨congrArg (Except.map some) hanswer, ?_⟩
    intro collection id hplace
    by_cases hcase : collection = name ∧ id = place
    · obtain ⟨rfl, rfl⟩ := hcase
      exact hcounted
    · have hframe := fun store : Store => store.get?_increment_of_place_ne hcase field
      rw [perform_increment, perform_increment, hframe, hframe]
      exact h collection id hplace

/-! ## The order of the ids -/

theorem ordered_empty : empty.Ordered :=
  fun _ => List.Pairwise.nil

theorem collection_put (store : Store) (name id other : String) (document : Option Value) :
    (store.put name id document).collection other =
      if other = name then
        match document with
        | some value => Table.insert id value (store.collection name)
        | none => Table.erase id (store.collection name)
      else store.collection other := by
  unfold put collection
  rw [Table.get?_insert]
  by_cases hname : other = name
  · rw [if_pos hname, if_pos hname]
    rfl
  · rw [if_neg hname, if_neg hname]

theorem Ordered.put (h : store.Ordered) (collection id : String) (document : Option Value) :
    (store.put collection id document).Ordered := by
  intro name
  rw [collection_put]
  split
  · cases document with
    | some value => exact (h collection).insert id value
    | none => exact (h collection).erase id
  · exact h name

theorem Ordered.applyFrom (h : store.Ordered) {index : Nat}
    (happly : store.applyFrom index ops = .ok after) : after.Ordered := by
  induction ops generalizing store index with
  | nil =>
    obtain rfl : store = after := Except.ok.inj happly
    exact h
  | cons op rest ih =>
    obtain ⟨document, -, hrest⟩ := applyFrom_cons_eq_ok happly
    exact ih (h.put op.collection op.id document) hrest

theorem Ordered.perform (h : store.Ordered) (write : Write) :
    (store.perform write).2.Ordered := by
  apply perform_closed Ordered h
  · intro ops after hcommit
    exact h.applyFrom (transact_eq_ok_iff.mp hcommit).2
  · intro collection id field
    exact increment_closed Ordered (fun _ hmiddle => hmiddle.put _ _ _) h field

/-- With ascending ids, the documents one by one make up the lists of them. -/
theorem Ordered.list_eq (h : store.Ordered) (hother : other.Ordered)
    (hsame : ∀ collection id, store.get? collection id = other.get? collection id)
    (collection : String) : store.list collection = other.list collection := by
  rw [list, list, (h collection).ext (hother collection) (hsame collection)]

end ControlPlane.Store
