import ControlPlane.Proofs.Json.Objects
import ControlPlane.Store.Basic

/-!
# Counting

An increment is about one document, which it makes if there is none.  It
answers with the number under a field and leaves the next one there.  Where it
fails it leaves a document that it has found as it was, but not one that it has
made: this one stays, without the field.
-/

namespace ControlPlane

open Json

namespace Store

variable {store other : Store} {name id field : String} {document : Value} {number : Nat}
  {failure : StoreError}

theorem isObject_iff : isObject document = true ↔ ∃ members, document = .object members := by
  constructor
  · intro h
    cases document with
    | object members => exact ⟨members, rfl⟩
    | _ => cases h
  · rintro ⟨members, rfl⟩
    rfl

/-- The number under a field; a missing field counts as zero. -/
def number? (field : String) (members : List (String × Value)) : Option Nat :=
  match Table.get? field members with
  | none => some 0
  | some value => value.counter?

/-- The members of a document that is made to be counted in. -/
def madeMembers (id : String) : List (String × Value) :=
  [("_id", .string id)]

/-! ## The document that is found, or made -/

theorem increment_of_object {members : List (String × Value)}
    (hget : store.get? name id = some (.object members)) :
    store.increment name id field =
      match number? field members with
      | none => (.error (.invalidOp 0 name id (.fieldNotACounter field)), store)
      | some number => (.ok number, store.put name id
        (some (.object (Table.insert field (.natural (number + 1)) members)))) := by
  rw [increment, hget]
  rfl

theorem increment_of_not_object (hget : store.get? name id = some document)
    (hobject : isObject document = false) :
    store.increment name id field =
      (.error (.invalidOp 0 name id .documentNotAnObject), store) := by
  rw [increment, hget]
  cases document with
  | object members => cases hobject
  | _ => rfl

/-- The store in which a document that is missing has been made. -/
def making (store : Store) (name id : String) : Store :=
  if (store.get? name id).isSome then store
  else store.put name id (some (.object (madeMembers id)))

theorem making_of_some (hget : store.get? name id = some document) :
    store.making name id = store := by
  rw [making, hget]
  rfl

theorem making_of_none (hget : store.get? name id = none) :
    store.making name id = store.put name id (some (.object (madeMembers id))) := by
  rw [making, hget]
  rfl

theorem get?_making (store : Store) (name id : String) :
    (store.making name id).get? name id =
      some ((store.get? name id).getD (.object (madeMembers id))) := by
  cases hget : store.get? name id with
  | none => rw [making_of_none hget, get?_put, if_pos ⟨rfl, rfl⟩, Option.getD_none]
  | some document => rw [making_of_some hget, hget, Option.getD_some]

theorem get?_making_of_none (hget : store.get? name id = none) :
    (store.making name id).get? name id = some (.object (madeMembers id)) := by
  rw [get?_making, hget, Option.getD_none]

/-- What is found when a missing document has been made was there, or has been made. -/
theorem get?_of_making (h : (store.making name id).get? name id = some document) :
    store.get? name id = some document ∨
      store.get? name id = none ∧ document = .object (madeMembers id) := by
  cases hget : store.get? name id with
  | none =>
    rw [get?_making_of_none hget] at h
    exact .inr ⟨rfl, (Option.some.inj h).symm⟩
  | some found =>
    rw [making_of_some hget, hget] at h
    exact .inl h

/-- A document that is missing is made, and then counted in like one that is found. -/
theorem increment_making (store : Store) (name id field : String) :
    (store.making name id).increment name id field = store.increment name id field := by
  cases hget : store.get? name id with
  | none =>
    rw [increment_of_object (get?_making_of_none hget), making_of_none hget, increment, hget]
    rfl
  | some document => rw [making_of_some hget]

/-- A document is counted in, or stays as it is.  It has been made by then if it was missing. -/
theorem increment_cases (store : Store) (name id field : String) :
    (∃ members number, (store.making name id).get? name id = some (.object members) ∧
      number? field members = some number ∧
      store.increment name id field = (.ok number, (store.making name id).put name id
        (some (.object (Table.insert field (.natural (number + 1)) members))))) ∨
    ∃ cause, store.increment name id field =
        (.error (.invalidOp 0 name id cause), store.making name id) ∧
      (cause = .documentNotAnObject → ∃ document,
        (store.making name id).get? name id = some document ∧ isObject document = false) := by
  have hget := store.get?_making name id
  generalize (store.get? name id).getD (.object (madeMembers id)) = document at hget
  rw [← increment_making]
  cases hobject : isObject document with
  | false =>
    refine .inr ⟨_, increment_of_not_object hget hobject, ?_⟩
    exact fun _ => ⟨document, hget, hobject⟩
  | true =>
    obtain ⟨members, rfl⟩ := isObject_iff.mp hobject
    rw [increment_of_object hget]
    cases hnumber : number? field members with
    | none => exact .inr ⟨_, rfl, nofun⟩
    | some number => exact .inl ⟨members, number, hget, hnumber, rfl⟩

/-- What putting objects in the place of a document keeps, counting in that document keeps. -/
theorem increment_closed (kept : Store → Prop)
    (hput : ∀ {middle : Store} (members : List (String × Value)), kept middle →
      kept (middle.put name id (some (.object members))))
    (h : kept store) (field : String) : kept (store.increment name id field).2 := by
  have hmaking : kept (store.making name id) := by
    rw [making]
    split
    · exact h
    · exact hput _ h
  rcases store.increment_cases name id field with ⟨_, _, -, -, heq⟩ | ⟨_, heq, -⟩
  · rw [heq]
    exact hput _ hmaking
  · rw [heq]
    exact hmaking

/-- Counting touches no other document. -/
theorem get?_increment_of_place_ne (store : Store) {name id other otherId : String}
    (h : ¬(other = name ∧ otherId = id)) (field : String) :
    (store.increment name id field).2.get? other otherId = store.get? other otherId := by
  apply increment_closed fun after => after.get? other otherId = store.get? other otherId
  · intro middle members hmiddle
    rw [get?_put, if_neg h]
    exact hmiddle
  · rfl

theorem get?_increment_of_ne (store : Store) {name other : String} (h : other ≠ name)
    (id field otherId : String) :
    (store.increment name id field).2.get? other otherId = store.get? other otherId :=
  store.get?_increment_of_place_ne (fun hplace => h hplace.1) field

/-- How counting is answered and what it makes of its document depends on that document alone. -/
theorem increment_congr (h : store.get? name id = other.get? name id) (field : String) :
    (store.increment name id field).1 = (other.increment name id field).1 ∧
      (store.increment name id field).2.get? name id =
        (other.increment name id field).2.get? name id := by
  have hleft := store.get?_making name id
  have hright := other.get?_making name id
  rw [h] at hleft
  generalize (other.get? name id).getD (.object (madeMembers id)) = document at hleft hright
  rw [← increment_making store, ← increment_making other]
  cases hobject : isObject document with
  | false =>
    rw [increment_of_not_object hleft hobject, increment_of_not_object hright hobject]
    exact ⟨rfl, hleft.trans hright.symm⟩
  | true =>
    obtain ⟨members, rfl⟩ := isObject_iff.mp hobject
    rw [increment_of_object hleft, increment_of_object hright]
    cases number? field members with
    | none => exact ⟨rfl, hleft.trans hright.symm⟩
    | some number =>
      dsimp only
      rw [get?_put, get?_put, if_pos ⟨rfl, rfl⟩, if_pos ⟨rfl, rfl⟩]
      exact ⟨rfl, rfl⟩

/-! ## What becomes of an increment -/

/-- An increment that fails does not fit its document, and finds no fault with the shape of an
object. -/
theorem exists_misfit_of_increment (h : (store.increment name id field).1 = .error failure) :
    ∃ cause, failure = .invalidOp 0 name id cause ∧
      (cause = .documentNotAnObject →
        ∃ document, store.get? name id = some document ∧ isObject document = false) := by
  rcases store.increment_cases name id field with ⟨_, _, -, -, heq⟩ | ⟨cause, heq, hshape⟩
  · rw [heq] at h
    cases h
  · rw [heq] at h
    refine ⟨cause, (Except.error.inj h).symm, ?_⟩
    intro hcause
    obtain ⟨document, hget, hobject⟩ := hshape hcause
    rcases get?_of_making hget with hfound | ⟨-, rfl⟩
    · exact ⟨document, hfound, hobject⟩
    · cases hobject

theorem number?_madeMembers (id field : String) :
    number? field (madeMembers id) = if field = "_id" then none else some 0 := by
  by_cases hfield : field = "_id"
  · rw [if_pos hfield, hfield]
    rfl
  · rw [if_neg hfield, number?, madeMembers, Table.get?, if_neg (Ne.symm hfield)]
    rfl

/-- A document that is made is counted in, unless it is under the name of its id. -/
theorem increment_eq_self_of_error
    (hfound : (store.get? name id).isSome = true ∨ field ≠ "_id")
    (h : (store.increment name id field).1 = .error failure) :
    (store.increment name id field).2 = store := by
  cases hget : store.get? name id with
  | none =>
    have hfield : field ≠ "_id" := by simpa [hget] using hfound
    rw [← increment_making, increment_of_object (get?_making_of_none hget), number?_madeMembers,
      if_neg hfield] at h
    cases h
  | some document =>
    rcases store.increment_cases name id field with ⟨_, _, -, -, heq⟩ | ⟨_, heq, -⟩
    · rw [heq] at h
      cases h
    · rw [heq, making_of_some hget]

/-- A document has been counted in: it has the next number under the field, and otherwise what it
had, or its id alone if it was missing.  No other document has changed. -/
structure Counted (store after : Store) (name id field : String) (number : Nat) : Prop where
  exists_members : ∃ members counted : List (String × Value),
    (store.get? name id = some (.object members) ∨
      store.get? name id = none ∧ members = madeMembers id) ∧
    (Table.get? field members = some (.natural number) ∨
      Table.get? field members = none ∧ number = 0) ∧
    after.get? name id = some (.object counted) ∧
    Table.get? field counted = some (.natural (number + 1)) ∧
    ∀ other, other ≠ field → Table.get? other counted = Table.get? other members
  same : ∀ otherName otherId, ¬(otherName = name ∧ otherId = id) →
    after.get? otherName otherId = store.get? otherName otherId

@[simp] theorem counter?_natural (number : Nat) :
    (Value.natural number).counter? = some number := by
  simp [Value.natural, Value.counter?]

theorem counter?_eq_some {value : Value} (h : value.counter? = some number) :
    value = .natural number := by
  cases value with
  | integer whole =>
    rw [Value.counter?] at h
    split at h
    · next hle =>
      obtain rfl : whole.toNat = number := Option.some.inj h
      rw [Value.natural, Int.toNat_of_nonneg hle]
    · cases h
  | _ => cases h

theorem get?_of_number? {members : List (String × Value)}
    (h : number? field members = some number) :
    Table.get? field members = some (.natural number) ∨
      Table.get? field members = none ∧ number = 0 := by
  rw [number?] at h
  split at h
  · next hnone => exact .inr ⟨hnone, (Option.some.inj h).symm⟩
  · next value hvalue => exact .inl (hvalue.trans (congrArg some (counter?_eq_some h)))

/-- An increment that is answered has counted. -/
theorem counted_of_increment (h : (store.increment name id field).1 = .ok number) :
    store.Counted (store.increment name id field).2 name id field number := by
  refine ⟨?_, fun _ _ hplace => store.get?_increment_of_place_ne hplace field⟩
  rcases store.increment_cases name id field with
    ⟨members, found, hmade, hnumber, heq⟩ | ⟨_, heq, -⟩
  · rw [heq] at h ⊢
    obtain rfl : found = number := Except.ok.inj h
    refine ⟨members, _, ?_, get?_of_number? hnumber, ?_, Table.get?_insert_self _ _ _,
      fun _ hne => Table.get?_insert_of_ne hne _ _⟩
    · rcases get?_of_making hmade with hfound | ⟨hnone, hobject⟩
      · exact .inl hfound
      · exact .inr ⟨hnone, Value.object.inj hobject⟩
    · dsimp only
      rw [get?_put, if_pos ⟨rfl, rfl⟩]
  · rw [heq] at h
    cases h

/-- An increment that fails changes nothing, if the document is there or the field is not that of
its id.  Otherwise the document has been made before its id is found to be no counter, and it
stays.  An increment that is answered has taken the number of the field, and has left the next one
there and everything else as it was. -/
theorem increment_atomic_unless_made (store : Store) (name id field : String) :
    ((store.get? name id).isSome = true ∨ field ≠ "_id" →
      ∀ failure, (store.increment name id field).1 = .error failure →
        (store.increment name id field).2 = store) ∧
    (store.get? name id = none → field = "_id" →
      store.increment name id field =
        (.error (.invalidOp 0 name id (.fieldNotACounter field)),
          store.put name id (some (.object [("_id", .string id)])))) ∧
    ∀ number, (store.increment name id field).1 = .ok number → number + 1 < UInt64.size →
      store.Counted (store.increment name id field).2 name id field number := by
  refine ⟨fun hfound failure => increment_eq_self_of_error hfound, ?_,
    fun number hnumber _ => counted_of_increment hnumber⟩
  intro hget hfield
  rw [← increment_making, increment_of_object (get?_making_of_none hget), number?_madeMembers,
    if_pos hfield, making_of_none hget]
  rfl

/-- A store with one document, whose counter is at 41. -/
def numbered : Store :=
  empty.put "sequence" "machine"
    (some (.object [("_id", .string "machine"), ("counter", .natural 41)]))

/-- The counter moves on and the id stays; the id cannot be counted, which changes nothing. -/
theorem increment_atomic_unless_made_numbered :
    numbered.Counted (numbered.increment "sequence" "machine" "counter").2
      "sequence" "machine" "counter" 41 ∧
    ∃ failure, (numbered.increment "sequence" "machine" "_id").1 = .error failure ∧
      (numbered.increment "sequence" "machine" "_id").2 = numbered := by
  obtain ⟨-, -, hcounted⟩ := increment_atomic_unless_made numbered "sequence" "machine" "counter"
  obtain ⟨hfailed, -, -⟩ := increment_atomic_unless_made numbered "sequence" "machine" "_id"
  exact ⟨hcounted 41 rfl (by decide), _, rfl, hfailed (.inl rfl) _ rfl⟩

/-- In the empty store, counting under the name of the id fails and leaves a document. -/
theorem increment_not_always_atomic :
    ¬∀ (name id field : String) (failure : StoreError),
      (empty.increment name id field).1 = .error failure →
        ∀ otherName otherId, (empty.increment name id field).2.get? otherName otherId =
          empty.get? otherName otherId := by
  intro h
  cases h "sequence" "machine" "_id" _ rfl "sequence" "machine"

end Store

end ControlPlane
