import ControlPlane.Json.Value
import ControlPlane.Text.Quoted

/-!
# Operations on documents

An operation names one document by its collection and its id, asserts something about what the
document holds, and has an effect on it. Both are about that one document only, so they are
functions of its value, where `none` stands for a document that does not exist.
-/

namespace ControlPlane.Store

open ControlPlane.Json

/-- A condition on a field of a document; a missing field compares as null. -/
inductive Condition where
  | equal (field : String) (value : Value)
  | notEqual (field : String) (value : Value)
  | size (field : String) (length : Nat)

/-- Whether a document meets a condition. -/
def Condition.holds (document : Value) : Condition → Bool
  | equal field value => (document.field field).same value
  | notEqual field value => !(document.field field).same value
  | size field length =>
    match document.field field with
    | .array items => items.length == length
    | _ => false

/-- What an operation asserts of its document. -/
inductive Assertion where
  | anything
  | absent
  | present
  | fields (conditions : List Condition)

/-- Why an assertion failed. -/
inductive AbortReason where
  | documentExists
  | documentMissing
  | conditionFailed
  deriving DecidableEq, Repr

/-- The word for a reason. -/
def AbortReason.word : AbortReason → String
  | documentExists => "doc_exists"
  | documentMissing => "doc_missing"
  | conditionFailed => "condition_failed"

/-- The reason why an assertion fails of a document, or `none` if it holds. -/
def Assertion.failure? (document : Option Value) : Assertion → Option AbortReason
  | anything => none
  | absent => if document.isSome then some .documentExists else none
  | present => if document.isNone then some .documentMissing else none
  | fields conditions =>
    match document with
    | none => some .documentMissing
    | some value => if conditions.all (·.holds value) then none else some .conditionFailed

/-- A change of one field of a document. -/
inductive Update where
  | set (field : String) (value : Value)
  | addToSet (field : String) (values : List Value)
  | push (field : String) (values : List Value)

/-- What does not fit in an operation or in the document it meets. -/
inductive Misfit where
  | insertedNotAnObject
  | updateOfMissing
  | documentNotAnObject
  | fieldNotAnArray (field : String)
  | fieldNotACounter (field : String)
  deriving DecidableEq, Repr

/-- The wording of a misfit. -/
def Misfit.message : Misfit → String
  | insertedNotAnObject => "inserted document is not an object"
  | updateOfMissing => "update of missing document"
  | documentNotAnObject => "document is not an object"
  | fieldNotAnArray field => "field " ++ Text.quoted field ++ " is not an array"
  | fieldNotACounter field => "field " ++ Text.quoted field ++ " is not a counter"

/-- The items of a field that is an array, where a missing or null field is an empty one. -/
def itemsOf? (field : String) (members : List (String × Value)) : Option (List Value) :=
  match Table.get? field members with
  | none => some []
  | some .null => some []
  | some (.array items) => some items
  | some _ => none

/-- Appends a value unless it is there already. -/
def addNew (items : List Value) (value : Value) : List Value :=
  if items.any (·.same value) then items else items ++ [value]

/-- Appends those of the values, one after the other, that are not there yet. -/
def union (items values : List Value) : List Value :=
  values.foldl addNew items

/-- Changes the members of a document. -/
def Update.onMembers (members : List (String × Value)) :
    Update → Except Misfit (List (String × Value))
  | set field value => .ok (Table.insert field value members)
  | addToSet field values =>
    match itemsOf? field members with
    | none => .error (.fieldNotAnArray field)
    | some items => .ok (Table.insert field (.array (union items values)) members)
  | push field values =>
    match itemsOf? field members with
    | none => .error (.fieldNotAnArray field)
    | some items => .ok (Table.insert field (.array (items ++ values)) members)

/-- Changes a document. -/
def Update.apply (document : Value) (update : Update) : Except Misfit Value :=
  match document with
  | .object members => (update.onMembers members).map .object
  | _ => .error .documentNotAnObject

/-- What an operation does to its document. -/
inductive Effect where
  | nothing
  | insert (document : Value)
  | update (updates : List Update)
  | remove

/-- Why an effect cannot take place. -/
inductive Obstacle where
  | occupied
  | misfit (cause : Misfit)
  deriving DecidableEq, Repr

/-- Whether a value is an object. -/
def isObject (value : Value) : Bool :=
  value.members?.isSome

/-- The document after an effect. -/
def Effect.apply (document : Option Value) : Effect → Except Obstacle (Option Value)
  | nothing => .ok document
  | insert value =>
    if !isObject value then .error (.misfit .insertedNotAnObject)
    else if document.isSome then .error .occupied
    else .ok (some value)
  | update updates =>
    match document with
    | none => .error (.misfit .updateOfMissing)
    | some value =>
      match updates.foldlM Update.apply value with
      | .ok changed => .ok (some changed)
      | .error cause => .error (.misfit cause)
  | remove => .ok none

/-- A conditional change of one document. -/
structure Op where
  collection : String
  id : String
  assertion : Assertion
  effect : Effect

namespace Op

/-- Inserts a document that must not exist yet. -/
def insert (collection id : String) (document : Value) : Op :=
  { collection, id, assertion := .absent, effect := .insert document }

/-- Changes a document if the assertion holds. -/
def update (collection id : String) (assertion : Assertion) (updates : List Update) : Op :=
  { collection, id, assertion, effect := .update updates }

/-- Checks an assertion and changes nothing. -/
def check (collection id : String) (assertion : Assertion) : Op :=
  { collection, id, assertion, effect := .nothing }

/-- Removes a document if the assertion holds. -/
def remove (collection id : String) (assertion : Assertion) : Op :=
  { collection, id, assertion, effect := .remove }

end Op

end ControlPlane.Store
