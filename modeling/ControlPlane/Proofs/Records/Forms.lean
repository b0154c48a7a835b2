import ControlPlane.Proofs.Environment.Life
import ControlPlane.Proofs.Session.Explanation

/-!
# The forms of stored documents

Each kind of record has its collection, and the documents of a collection have
a form of their own.  All but two are the records as they were written.  A
counter has some number, whatever else there is beside it.  And constraints
that have been replaced hold null where a field is unset, so that the document
is not that of the constraints but still stands for them.
-/

namespace ControlPlane

open Json Store

namespace Constraints

/-- Members of an object that hold constraints, where an unset field may be missing or null. -/
structure StoredIn (constraints : Constraints) (members : List (String × Value)) : Prop where
  ascending : Table.Ascending members
  get?_eq : ∀ entry ∈ constraints.toFields, Table.get? entry.1 members = entry.2 ∨
    entry.2 = none ∧ Table.get? entry.1 members = some .null

variable {constraints : Constraints} {members : List (String × Value)}

theorem storedIn_toValue (constraints : Constraints) :
    ∃ members, constraints.toValue = .object members ∧ constraints.StoredIn members := by
  have hstored := Value.storedIn_ofFields constraints.toFields_nodup
  exact ⟨_, Value.ofFields_eq _, hstored.ascending, hstored.hasField⟩

/-- Constraints are read back from an object that holds them. -/
theorem StoredIn.decode_eq (h : constraints.StoredIn members) :
    decode (.object members) = .ok constraints :=
  Constraints.decode_eq ⟨h.ascending, h.get?_eq⟩

end Constraints

namespace ResourceType

/-- A document has the form of the records of a kind. -/
def HasForm : ResourceType → Value → Prop
  | environment, document => ∃ environment : Environment, document = environment.toValue
  | machine, document => ∃ machine : Machine, document = machine.toValue
  | containerRef, document => ∃ ref : ContainerRef, document = ref.toValue
  | constraints, document => ∃ (constraints : Constraints) (members : List (String × Value)),
      document = .object members ∧ constraints.StoredIn members
  | status, document => ∃ record : StatusRecord, document = record.toValue
  | instanceData, document => ∃ data : InstanceData, document = data.toValue
  | stateServerInfo, document => ∃ record : StateServersRecord, document = record.toValue
  | sequence, document => ∃ (members : List (String × Value)) (number : Nat),
      document = .object members ∧ Table.get? "counter" members = some (.natural number)

variable {type : ResourceType} {document : Value}

/-- A document that has the form of a kind is read as a record of it. -/
theorem HasForm.isReadAs (h : type.HasForm document) : type.IsReadAs document := by
  cases type with
  | environment =>
    obtain ⟨environment, rfl⟩ := h
    exact ⟨_, environment.decode_toValue⟩
  | machine =>
    obtain ⟨machine, rfl⟩ := h
    exact ⟨_, machine.decode_toValue⟩
  | containerRef =>
    obtain ⟨ref, rfl⟩ := h
    exact ⟨_, ref.decode_toValue⟩
  | constraints =>
    obtain ⟨constraints, members, rfl, hstored⟩ := h
    exact ⟨_, hstored.decode_eq⟩
  | status =>
    obtain ⟨record, rfl⟩ := h
    exact ⟨_, record.decode_toValue⟩
  | instanceData =>
    obtain ⟨data, rfl⟩ := h
    exact ⟨_, data.decode_toValue⟩
  | stateServerInfo =>
    obtain ⟨record, rfl⟩ := h
    exact ⟨_, record.decode_toValue⟩
  | sequence =>
    obtain ⟨members, number, rfl, hcounter⟩ := h
    refine ⟨number, ?_⟩
    rw [Value.field, hcounter]
    rfl

/-- Every document of this form is an object. -/
theorem HasForm.isObject (h : type.HasForm document) : Store.isObject document = true := by
  cases type with
  | constraints =>
    obtain ⟨constraints, members, rfl, -⟩ := h
    rfl
  | sequence =>
    obtain ⟨members, number, rfl, -⟩ := h
    rfl
  | _ =>
    obtain ⟨record, rfl⟩ := h
    rfl

end ResourceType

/-- Every document has the form of the records of its collection. -/
def Store.Formed (store : Store) : Prop :=
  ∀ (type : ResourceType) (id : String) (document : Value),
    store.get? type.collection id = some document → type.HasForm document

namespace Store.Formed

variable {store : Store}

theorem put (h : store.Formed) (type : ResourceType) (id : String) {document? : Option Value}
    (hform : ∀ document, document? = some document → type.HasForm document) :
    (store.put type.collection id document?).Formed := by
  intro other otherId document hget
  rw [get?_put] at hget
  split at hget
  · next hplace =>
    obtain rfl := ResourceType.collection_injective hplace.1
    exact hform document hget
  · exact h other otherId document hget

theorem empty : Store.empty.Formed := by
  intro type id document hget
  cases hget

/-- A counter gives a number, and goes on being a counter. -/
theorem increment (h : store.Formed) (counter : String) :
    ∃ number, (store.increment Layout.sequence counter "counter").1 = .ok number ∧
      (store.increment Layout.sequence counter "counter").2.Formed := by
  have hcounter : ∀ (members : List (String × Value)) (number : Nat),
      ResourceType.sequence.HasForm
        (.object (Table.insert "counter" (.natural number) members)) := fun members number =>
    ⟨_, number, rfl, Table.get?_insert_self ..⟩
  unfold Store.increment
  cases hget : store.get? Layout.sequence counter with
  | none =>
    refine ⟨0, rfl, ?_⟩
    -- The document is made first, and then the number is put into it.
    intro type id document hfound
    change Store.get? ((store.put ResourceType.sequence.collection counter _).put
      ResourceType.sequence.collection counter _) _ _ = _ at hfound
    rw [get?_put] at hfound
    split at hfound
    · next hplace =>
      obtain rfl := ResourceType.collection_injective hplace.1
      cases hfound
      exact hcounter _ 1
    · next hplace =>
      rw [get?_put, if_neg hplace] at hfound
      exact h type id document hfound
  | some document =>
    obtain ⟨members, number, rfl, hnumber⟩ := h .sequence counter document hget
    simp only [hnumber, counter?_natural]
    refine ⟨number, rfl, ?_⟩
    apply h.put .sequence
    rintro _ ⟨⟩
    exact hcounter members (number + 1)

end Store.Formed

end ControlPlane
