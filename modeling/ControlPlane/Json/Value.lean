import ControlPlane.Number.Binary64
import ControlPlane.Table

/-!
# Values of documents

A value is what a JSON text stands for. Whole numbers and floating point numbers are different
values, and the members of an object are a table, so their order in a text does not matter.
-/

namespace ControlPlane.Json

/-- A JSON value. -/
inductive Value where
  | null
  | boolean (holds : Bool)
  | integer (number : Int)
  | float (number : Number.Binary64)
  | string (text : String)
  | array (items : List Value)
  | object (members : List (String × Value))

instance : Inhabited Value := ⟨.null⟩

namespace Value

mutual

/-- Equality of values: an integer never equals a float, and the two zeros are equal floats. -/
def same : Value → Value → Bool
  | null, null => true
  | boolean a, boolean b => a == b
  | integer a, integer b => a == b
  | float a, float b => a.same b
  | string a, string b => a == b
  | array a, array b => sameItems a b
  | object a, object b => sameMembers a b
  | _, _ => false

/-- Equality of two lists, item by item. -/
def sameItems : List Value → List Value → Bool
  | [], [] => true
  | a :: as, b :: bs => same a b && sameItems as bs
  | _, _ => false

/-- Equality of two tables, entry by entry. -/
def sameMembers : List (String × Value) → List (String × Value) → Bool
  | [], [] => true
  | (k, a) :: as, (l, b) :: bs => k == l && same a b && sameMembers as bs
  | _, _ => false

end

instance : BEq Value := ⟨same⟩

/-- The members of an object. -/
def members? : Value → Option (List (String × Value))
  | object members => some members
  | _ => none

/-- The field of an object; a missing field, like the field of anything else, is null. -/
def field (name : String) : Value → Value
  | object members => (Table.get? name members).getD null
  | _ => null

/-- The number of a counter: an integer that is not negative. Counters have 64 bits and stay below
`2 ^ 64 - 1`, so the number is not bounded here. -/
def counter? : Value → Option Nat
  | integer number => if 0 ≤ number then some number.toNat else none
  | _ => none

/-- The object of the given fields, without those that are unset. -/
def ofFields (fields : List (String × Option Value)) : Value :=
  object (Table.ofList (fields.filterMap fun (name, value?) => value?.map (name, ·)))

/-- An array of strings. -/
def strings (texts : List String) : Value :=
  array (texts.map string)

/-- A natural number. -/
def natural (number : Nat) : Value :=
  integer number

/-- A number of 64 bits. -/
def word (number : UInt64) : Value :=
  natural number.toNat

mutual

theorem same_refl : ∀ value : Value, same value value = true
  | null => rfl
  | boolean _ => by simp [same]
  | integer _ => by simp [same]
  | float x => by simp [same, x.same_refl]
  | string _ => by simp [same]
  | array items => by simp [same, sameItems_refl items]
  | object members => by simp [same, sameMembers_refl members]

theorem sameItems_refl : ∀ items : List Value, sameItems items items = true
  | [] => rfl
  | a :: as => by simp [sameItems, same_refl a, sameItems_refl as]

theorem sameMembers_refl : ∀ members : List (String × Value), sameMembers members members = true
  | [] => rfl
  | (k, a) :: as => by simp [sameMembers, same_refl a, sameMembers_refl as]

end

/-- Two strings are the same value just when they are equal. -/
@[simp] theorem same_string (a b : String) : same (string a) (string b) = (a == b) := by
  simp [same]

end Value

end ControlPlane.Json
