import ControlPlane.Proofs.Json.Equality
import ControlPlane.Proofs.Store.Folding
import Mathlib.Data.Set.Card

/-!
# Adding to a set

The items of an array stay where they are when values are added to it as to a
set, and behind them come those values that are new, each once and in the order
in which they occur first.  Whether a value is there already is looked up in the
array as it has grown so far, so this has to be shown along the way.
-/

namespace ControlPlane

open Json

/-- Of two values put at one key the later one stays. -/
theorem Table.insert_insert {α : Type} (key : String) (first second : α)
    (entries : List (String × α)) :
    insert key second (insert key first entries) = insert key second entries := by
  induction entries with
  | nil => simp [insert]
  | cons e rest ih =>
    obtain ⟨k, a⟩ := e
    by_cases heq : k = key
    · simp [insert, heq]
    · by_cases hlt : key < k
      · simp [insert, heq, hlt]
      · simp [insert, heq, hlt, ih]

namespace Store

variable {items values : List Value} {value other : Value}

/-! ## Values in arrays -/

/-- No two of the items are equal. -/
def Distinct (items : List Value) : Prop :=
  items.Pairwise fun item item' => (item == item') = false

/-- The values that are not among the items, each once and in the order of their first
occurrence. -/
def fresh (items values : List Value) : List Value :=
  (values.filter fun value => !items.contains value).eraseDups

theorem any_same (items : List Value) (value : Value) :
    (items.any fun item => item.same value) = items.contains value := by
  rw [List.contains_eq_any_beq]
  exact congrArg items.any (funext fun item => item.same_comm value)

theorem addNew_of_contains (h : items.contains value = true) : addNew items value = items := by
  rw [addNew, any_same, if_pos h]

theorem addNew_of_not_contains (h : items.contains value = false) :
    addNew items value = items ++ [value] := by
  rw [addNew, any_same, if_neg (Bool.eq_false_iff.mp h)]

theorem contains_addNew (items : List Value) (value other : Value) :
    (addNew items value).contains other = (items.contains other || other == value) := by
  by_cases h : items.contains value = true
  · rw [addNew_of_contains h]
    by_cases heq : (other == value) = true
    · rw [List.contains_congr heq, h, Bool.true_or]
    · rw [Bool.eq_false_of_not_eq_true heq, Bool.or_false]
  · rw [addNew_of_not_contains (Bool.eq_false_of_not_eq_true h), List.contains_append,
      List.contains_cons, List.contains_nil, Bool.or_false]

/-- What is in the union is what was there and what has been added. -/
theorem contains_union (items values : List Value) (other : Value) :
    (union items values).contains other = (items.contains other || values.contains other) := by
  induction values generalizing items with
  | nil => simp [union]
  | cons value rest ih =>
    change (union (addNew items value) rest).contains other = _
    rw [ih, contains_addNew, List.contains_cons, Bool.or_assoc]

theorem mem_of_mem_union (h : other ∈ union items values) : other ∈ items ∨ other ∈ values := by
  induction values generalizing items with
  | nil => exact .inl h
  | cons value rest ih =>
    rcases ih h with hitems | hrest
    · by_cases hvalue : items.contains value = true
      · rw [addNew_of_contains hvalue] at hitems
        exact .inl hitems
      · rw [addNew_of_not_contains (Bool.eq_false_of_not_eq_true hvalue), List.mem_append,
          List.mem_singleton] at hitems
        rcases hitems with hitems | rfl
        · exact .inl hitems
        · exact .inr List.mem_cons_self
    · exact .inr (List.mem_cons_of_mem _ hrest)

theorem union_of_contains (h : ∀ value ∈ values, items.contains value = true) :
    union items values = items := by
  induction values with
  | nil => rfl
  | cons value rest ih =>
    rw [List.forall_mem_cons] at h
    change union (addNew items value) rest = items
    rw [addNew_of_contains h.1, ih h.2]

/-- Values that are added once more are there already. -/
theorem union_union_self (items values : List Value) :
    union (union items values) values = union items values := by
  apply union_of_contains
  intro value hvalue
  have hself : values.contains value = true :=
    List.contains_iff_exists_mem_beq.mpr ⟨value, hvalue, BEq.rfl⟩
  rw [contains_union, hself, Bool.or_true]

theorem union_append (items values later : List Value) :
    union items (values ++ later) = union (union items values) later :=
  List.foldl_append

/-- To add values as to a set is to append those that are new. -/
theorem union_eq_append_fresh (items values : List Value) :
    union items values = items ++ fresh items values := by
  induction values generalizing items with
  | nil => simp [union, fresh]
  | cons value rest ih =>
    change union (addNew items value) rest = _
    by_cases h : items.contains value = true
    · rw [addNew_of_contains h, ih, fresh, fresh, List.filter_cons_of_neg (by simp [h])]
    · have hnew := Bool.eq_false_of_not_eq_true h
      -- What is new beside the longer array is new beside the shorter one and not the value.
      have hrest : (rest.filter fun other => !(items ++ [value]).contains other) =
          (rest.filter fun other => !items.contains other).filter fun other => !other == value := by
        rw [List.filter_filter]
        apply List.filter_congr
        intro other _
        rw [List.contains_append, List.contains_cons, List.contains_nil, Bool.or_false,
          Bool.not_or, Bool.and_comm]
      rw [addNew_of_not_contains hnew, ih, fresh, fresh, hrest,
        List.filter_cons_of_pos (by simp [hnew]), List.eraseDups_cons, List.append_assoc]
      rfl

theorem Distinct.addNew (h : Distinct items) (value : Value) : Distinct (addNew items value) := by
  by_cases hvalue : items.contains value = true
  · rw [addNew_of_contains hvalue]
    exact h
  · rw [addNew_of_not_contains (Bool.eq_false_of_not_eq_true hvalue)]
    refine List.pairwise_append.mpr ⟨h, List.pairwise_singleton _ _, ?_⟩
    intro item hitem last hlast
    rw [List.mem_singleton.mp hlast, ← Bool.not_eq_true]
    intro heq
    exact hvalue (List.contains_iff_exists_mem_beq.mpr ⟨item, hitem, BEq.symm heq⟩)

/-- Where no two items are equal no two are afterwards. -/
theorem Distinct.union (h : Distinct items) (values : List Value) :
    Distinct (union items values) := by
  induction values generalizing items with
  | nil => exact h
  | cons value rest ih => exact ih (h.addNew value)

theorem eraseDups_eq_union (values : List Value) : values.eraseDups = union [] values := by
  have hall : (values.filter fun value => !([] : List Value).contains value) = values :=
    List.filter_eq_self.mpr fun _ _ => rfl
  rw [union_eq_append_fresh, fresh, hall, List.nil_append]

theorem distinct_fresh (items values : List Value) : Distinct (fresh items values) := by
  rw [fresh, eraseDups_eq_union]
  exact Distinct.union List.Pairwise.nil _

theorem mem_of_mem_fresh (h : value ∈ fresh items values) :
    value ∈ values ∧ items.contains value = false := by
  rw [fresh, eraseDups_eq_union] at h
  rcases mem_of_mem_union h with hnil | hmem
  · cases hnil
  · simpa using List.mem_filter.mp hmem

theorem contains_fresh (hmem : value ∈ values) (hnew : items.contains value = false) :
    ∃ first ∈ fresh items values, (value == first) = true := by
  have hunion := contains_union items values value
  rw [union_eq_append_fresh, List.contains_append, hnew, Bool.false_or, Bool.false_or] at hunion
  rw [← List.contains_iff_exists_mem_beq, hunion]
  exact List.contains_iff_exists_mem_beq.mpr ⟨value, hmem, BEq.rfl⟩

/-- There are as many new values as there are values up to equality that are not among the items. -/
theorem length_fresh (items values : List Value) :
    (fresh items values).length = Set.ncard {datum : Quotient Value.setoid |
      ∃ value ∈ values, items.contains value = false ∧ datum = Quotient.mk _ value} := by
  classical
  let data := (fresh items values).map (Quotient.mk Value.setoid)
  have hnodup : data.Nodup := by
    apply List.pairwise_map.mpr
    apply (distinct_fresh items values).imp
    intro first second hdistinct heq
    exact absurd (hdistinct.symm.trans (Quotient.exact heq)) Bool.false_ne_true
  have hset : {datum : Quotient Value.setoid | ∃ value ∈ values,
      items.contains value = false ∧ datum = Quotient.mk _ value} = ↑data.toFinset := by
    ext datum
    rw [List.coe_toFinset]
    constructor
    · rintro ⟨value, hmem, hnew, rfl⟩
      obtain ⟨first, hfirst, heq⟩ := contains_fresh hmem hnew
      exact List.mem_map.mpr ⟨first, hfirst, Quotient.sound (BEq.symm heq)⟩
    · intro hdatum
      obtain ⟨value, hvalue, rfl⟩ := List.mem_map.mp hdatum
      obtain ⟨hmem, hnew⟩ := mem_of_mem_fresh hvalue
      exact ⟨value, hmem, hnew, rfl⟩
  rw [hset, Set.ncard_coe_finset, List.toFinset_card_of_nodup hnodup, List.length_map]

/-! ## Fields of documents -/

namespace Update

variable {members : List (String × Value)} {field : String}

theorem apply_addToSet (h : (Value.object members).TakesItems field) (values : List Value) :
    apply (.object members) (.addToSet field values) = .ok (.object
      (Table.insert field (.array (union ((Value.object members).items field) values))
        members)) := by
  rcases Value.itemsOf?_cases field members with ⟨hitems, -⟩ | ⟨-, hnone⟩
  · simp only [apply, onMembers, hitems]
    rfl
  · exact absurd h hnone

theorem apply_addToSet_error (h : ¬(Value.object members).TakesItems field)
    (values : List Value) :
    apply (.object members) (.addToSet field values) = .error (.fieldNotAnArray field) := by
  rcases Value.itemsOf?_cases field members with ⟨-, htakes⟩ | ⟨hitems, -⟩
  · exact absurd htakes h
  · simp only [apply, onMembers, hitems]
    rfl

/-- After an array has been set more values may be added to it. -/
theorem apply_addToSet_insert (members : List (String × Value)) (field : String)
    (items values : List Value) :
    apply (.object (Table.insert field (.array items) members)) (.addToSet field values) =
      .ok (.object (Table.insert field (.array (union items values)) members)) := by
  have hfield : (Value.object (Table.insert field (.array items) members)).field field =
      .array items := by
    rw [Value.field, Table.get?_insert_self]
    rfl
  have htakes : (Value.object (Table.insert field (.array items) members)).TakesItems field :=
    .inr ⟨items, hfield⟩
  rw [apply_addToSet htakes, Table.insert_insert, Value.items, hfield]

end Update

/-- To add values to a field as to a set appends to its array those that are new, each once and in
the order of their first occurrence, and leaves every other field alone.  A missing field and a null
one are an empty array; no other field takes values.  A whole number is no float. -/
theorem addToSet_is_ordered_union (members : List (String × Value)) (field : String)
    (values later : List Value) :
    ((Value.object members).TakesItems field → ∃ members' items,
      items = (Value.object members).items field ∧
      (Update.addToSet field values).apply (.object members) = .ok (.object members') ∧
      (∀ other, other ≠ field → Table.get? other members' = Table.get? other members) ∧
      Table.get? field members' = some (.array (items ++ fresh items values)) ∧
      (Distinct items → Distinct (items ++ fresh items values)) ∧
      (fresh items values).length = Set.ncard {datum : Quotient Value.setoid |
        ∃ value ∈ values, items.contains value = false ∧ datum = Quotient.mk _ value} ∧
      (Update.addToSet field values).apply (.object members') = .ok (.object members') ∧
      (Update.addToSet field later).apply (.object members') =
        (Update.addToSet field (values ++ later)).apply (.object members)) ∧
    (¬(Value.object members).TakesItems field →
      (Update.addToSet field values).apply (.object members) = .error (.fieldNotAnArray field)) ∧
    ∀ number x, (Value.integer number == Value.float x) = false := by
  refine ⟨?_, fun h => Update.apply_addToSet_error h values, Value.same_integer_float⟩
  intro h
  let items := (Value.object members).items field
  refine ⟨_, items, rfl, Update.apply_addToSet h values, ?_, ?_, ?_, length_fresh items values, ?_,
    ?_⟩
  · intro other hother
    exact Table.get?_insert_of_ne hother _ _
  · rw [Table.get?_insert_self, union_eq_append_fresh]
  · intro hdistinct
    rw [← union_eq_append_fresh]
    exact hdistinct.union values
  · rw [Update.apply_addToSet_insert, union_union_self]
  · rw [Update.apply_addToSet_insert, ← union_append, Update.apply_addToSet h]

/-- Beside the whole number zero the float is new, but only once, because both zeros are one; and a
name takes no values. -/
theorem addToSet_is_ordered_union_zeros :
    let zero : Value := .integer 0
    let document : Value := .object [("name", .string "x"), ("seen", .array [zero])]
    let values : List Value := [.float ⟨true, 0⟩, zero, .float ⟨false, 0⟩, .integer 7, .integer 7]
    (∃ members', (Update.addToSet "seen" values).apply document = .ok (.object members') ∧
      Table.get? "name" members' = some (.string "x") ∧
      Table.get? "seen" members' = some (.array [zero, .float ⟨true, 0⟩, .integer 7]) ∧
      (Update.addToSet "seen" values).apply (.object members') = .ok (.object members')) ∧
    (Update.addToSet "name" []).apply document = .error (.fieldNotAnArray "name") := by
  intro zero document values
  constructor
  · have hunion := addToSet_is_ordered_union [("name", .string "x"), ("seen", .array [zero])]
      "seen" values []
    obtain ⟨members', items, rfl, happly, hother, hseen, -, -, htwice, -⟩ :=
      hunion.1 (.inr ⟨[zero], rfl⟩)
    exact ⟨members', happly, hother "name" (by decide), hseen, htwice⟩
  · apply (addToSet_is_ordered_union _ "name" [] []).2.1
    rintro (hnull | ⟨items, harray⟩)
    · cases hnull
    · cases harray

end Store

end ControlPlane
