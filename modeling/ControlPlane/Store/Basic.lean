import ControlPlane.Store.Error

/-!
# The document store

Documents are grouped into collections and named by ids. A transaction first checks all its
assertions against the store as it is, then applies its effects in order, and takes place as a
whole or not at all. An increment is a step of its own; it creates the document it counts in before
it looks at the field.
-/

namespace ControlPlane

open ControlPlane.Json

/-- The documents by collection and id. -/
structure Store where
  collections : List (String × List (String × Value))

namespace Store

/-- The store without documents. -/
def empty : Store := ⟨[]⟩

instance : Inhabited Store := ⟨empty⟩

/-- The documents of a collection with their ids. -/
def collection (store : Store) (name : String) : List (String × Value) :=
  (Table.get? name store.collections).getD []

/-- The document of a collection with an id. -/
def get? (store : Store) (name id : String) : Option Value :=
  Table.get? id (store.collection name)

/-- The documents of a collection in the order of their ids. -/
def list (store : Store) (name : String) : List Value :=
  (store.collection name).map (·.2)

/-- Puts a document in place of what is there, or removes it. -/
def put (store : Store) (name id : String) (document : Option Value) : Store :=
  let entries :=
    match document with
    | some value => Table.insert id value (store.collection name)
    | none => Table.erase id (store.collection name)
  ⟨Table.insert name entries store.collections⟩

/-- The first operation, counted from `index`, whose assertion does not hold. -/
def checkFrom (store : Store) (index : Nat) : List Op → Except StoreError Unit
  | [] => .ok ()
  | op :: rest =>
    match op.assertion.failure? (store.get? op.collection op.id) with
    | some reason => .error (.aborted index op.collection op.id reason)
    | none => checkFrom store (index + 1) rest

/-- Applies the effects of operations, counted from `index`, in order. -/
def applyFrom (store : Store) (index : Nat) : List Op → Except StoreError Store
  | [] => .ok store
  | op :: rest =>
    match op.effect.apply (store.get? op.collection op.id) with
    | .error obstacle => .error (.ofObstacle index op obstacle)
    | .ok document => applyFrom (store.put op.collection op.id document) (index + 1) rest

/-- The store after a transaction, or the reason why it does not take place. -/
def transact (store : Store) (ops : List Op) : Except StoreError Store := do
  store.checkFrom 0 ops
  store.applyFrom 0 ops

/-- Adds one to a counter. The answer is the number before; a missing counter is at zero. A counter
has 64 bits, and the addition is that of numbers without a bound: it is the same as long as the
counter stays below `2 ^ 64 - 1`. -/
def increment (store : Store) (name id field : String) : Except StoreError Nat × Store :=
  let (document, store) :=
    match store.get? name id with
    | some document => (document, store)
    | none =>
      let document := Value.object [("_id", .string id)]
      (document, store.put name id (some document))
  match document with
  | .object members =>
    let number? :=
      match Table.get? field members with
      | none => some 0
      | some value => value.counter?
    match number? with
    | none => (.error (.invalidOp 0 name id (.fieldNotACounter field)), store)
    | some number =>
      let changed := Value.object (Table.insert field (.natural (number + 1)) members)
      (.ok number, store.put name id (some changed))
  | _ => (.error (.invalidOp 0 name id .documentNotAnObject), store)

@[simp] theorem get?_empty (name id : String) : empty.get? name id = none := rfl

/-- What is put is what is found, and nothing else changes. -/
theorem get?_put (store : Store) (name id other otherId : String) (document : Option Value) :
    (store.put name id document).get? other otherId =
      if other = name ∧ otherId = id then document else store.get? other otherId := by
  unfold get? put collection
  simp only [Table.get?_insert]
  by_cases hn : other = name
  · subst hn
    cases document with
    | some value => by_cases hi : otherId = id <;> simp [Table.get?_insert, hi]
    | none => by_cases hi : otherId = id <;> simp [Table.get?_erase, hi]
  · simp [hn]

end Store

end ControlPlane
