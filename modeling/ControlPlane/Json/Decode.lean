import ControlPlane.Json.Value
import ControlPlane.Keyword
import ControlPlane.Number.Shortest
import ControlPlane.Text.Quoted

/-!
# Decoding values

A decoder takes a value apart or says what is wrong with it. The fields of a record are decoded in
two passes: first every member that is present, in the order of the table, then the fields in the
order of their declaration, so that a member of a wrong kind is reported before a missing one.
-/

namespace ControlPlane.Json

/-- What is wrong with a value. -/
inductive DecodeError where
  | missingField (name : String)
  | unknownVariant (found : String) (known : List String)
  | invalidType (found : Value) (expected : String)
  | invalidValue (found : Value) (expected : String)
  | invalidLength (found : Nat) (expected : String)
  | malformed (message : String)

/-- A value as it is named in a complaint about it. -/
def Value.describe : Value → String
  | .null => "null"
  | .boolean holds => "boolean `" ++ (if holds then "true" else "false") ++ "`"
  | .integer number => "integer `" ++ toString number ++ "`"
  | .float number => "floating point `" ++ number.render ++ "`"
  | .string text => "string " ++ Text.quoted text
  | .array _ => "sequence"
  | .object _ => "map"

/-- A choice of words, each between grave accents. -/
def oneOf (known : List String) : String :=
  match known.map fun word => "`" ++ word ++ "`" with
  | [] => "nothing"
  | [word] => word
  | [first, second] => first ++ " or " ++ second
  | words => "one of " ++ ", ".intercalate words

/-- The wording of a complaint. -/
def DecodeError.message : DecodeError → String
  | .missingField name => "missing field `" ++ name ++ "`"
  | .unknownVariant found known =>
    "unknown variant `" ++ found ++ "`, expected " ++ oneOf known
  | .invalidType found expected => "invalid type: " ++ found.describe ++ ", expected " ++ expected
  | .invalidValue found expected => "invalid value: " ++ found.describe ++ ", expected " ++ expected
  | .invalidLength found expected =>
    "invalid length " ++ toString found ++ ", expected " ++ expected
  | .malformed message => message

/-- A way to take values of one kind apart. -/
abbrev Decoder (α : Type) := Value → Except DecodeError α

namespace Decoder

variable {α β γ : Type}

/-- Accepts every value. -/
def any : Decoder Value := .ok

/-- Accepts strings. -/
def string : Decoder String
  | .string text => .ok text
  | found => .error (.invalidType found "a string")

/-- Accepts truth values. -/
def boolean : Decoder Bool
  | .boolean holds => .ok holds
  | found => .error (.invalidType found "a boolean")

/-- Accepts the integers that 64 bits hold. -/
def word : Decoder UInt64
  | .integer number =>
    if 0 ≤ number ∧ number < UInt64.size then .ok (UInt64.ofNat number.toNat)
    else .error (.invalidValue (.integer number) "u64")
  | found => .error (.invalidType found "u64")

/-- Accepts the integers that can count something. -/
def count : Decoder Nat
  | .integer number =>
    if 0 ≤ number ∧ number < UInt64.size then .ok number.toNat
    else .error (.invalidValue (.integer number) "usize")
  | found => .error (.invalidType found "usize")

/-- Accepts arrays whose items are all accepted. -/
def sequence (item : Decoder α) : Decoder (List α)
  | .array items => items.mapM item
  | found => .error (.invalidType found "a sequence")

/-- Takes null for an unset value. -/
def optional (decode : Decoder α) : Decoder (Option α)
  | .null => .ok none
  | found => (decode found).map some

/-- Accepts null alone. -/
def unit : Decoder Unit
  | .null => .ok ()
  | found => .error (.invalidType found "unit")

/-- Splits a choice into its word and what comes with it: a string is a bare word, and an object
with one member is a word with a value. -/
def choice : Decoder (String × Option Value)
  | .string word => .ok (word, none)
  | .object [(word, payload)] => .ok (word, some payload)
  | .object members => .error (.invalidValue (.object members) "map with a single key")
  | found => .error (.invalidType found "string or map")

/-- Accepts the words of a type, bare or with null. -/
def keyword [Keyword α] : Decoder α := fun found => do
  let (word, payload) ← choice found
  match Keyword.ofWord? word with
  | none => throw (.unknownVariant word (Keyword.words α))
  | some a =>
    match payload with
    | none => return a
    | some payload => unit payload; return a

end Decoder

/-- The fields of a record, in the order of their declaration. -/
structure Fields (α : Type) where
  /-- For each field the check of a member that is present. -/
  checks : List (String × Decoder Unit)
  /-- Reads the fields from members that have passed their checks. -/
  read : List (String × Value) → Except DecodeError α
  /-- Reads the fields from the items of an array, from the given position on. -/
  readItems : (Nat → DecodeError) → Nat → List Value → Except DecodeError (α × List Value)

namespace Fields

variable {α β γ : Type}

instance : Applicative Fields where
  pure a :=
    { checks := []
      read := fun _ => .ok a
      readItems := fun _ _ items => .ok (a, items) }
  seq f x :=
    { checks := f.checks ++ (x ()).checks
      read := fun members => do
        let g ← f.read members
        let a ← (x ()).read members
        return g a
      readItems := fun tooShort position items => do
        let (g, items) ← f.readItems tooShort position items
        let (a, items) ← (x ()).readItems tooShort (position + f.checks.length) items
        return (g a, items) }

/-- A field that has to be present. -/
def required (name : String) (decode : Decoder α) : Fields α where
  checks := [(name, fun found => (decode found).map fun _ => ())]
  read members :=
    match Table.get? name members with
    | none => .error (.missingField name)
    | some found => decode found
  readItems tooShort position
    | [] => .error (tooShort position)
    | found :: rest => (decode found).map (·, rest)

/-- A field that stands for `default` when it is missing. -/
def withDefault (default : α) (name : String) (decode : Decoder α) : Fields α where
  checks := [(name, fun found => (decode found).map fun _ => ())]
  read members :=
    match Table.get? name members with
    | none => .ok default
    | some found => decode found
  readItems _ _
    | [] => .ok (default, [])
    | found :: rest => (decode found).map (·, rest)

/-- A field that may be missing or null. -/
def optional (name : String) (decode : Decoder α) : Fields (Option α) :=
  withDefault none name (Decoder.optional decode)

/-- Checks the members that are fields, in the order of the table. -/
def checkMembers (fields : Fields α) (members : List (String × Value)) : Except DecodeError Unit :=
  members.forM fun (name, found) =>
    match Table.get? name fields.checks with
    | none => .ok ()
    | some check => check found

/-- Decodes the members of an object. -/
def decodeMembers (fields : Fields α) (members : List (String × Value)) : Except DecodeError α := do
  fields.checkMembers members
  fields.read members

/-- Decodes the items of an array, one for each field. -/
def decodeItems (fields : Fields α) (what : String) (items : List Value) :
    Except DecodeError α := do
  let size := fields.checks.length
  let unit := if size = 1 then " element" else " elements"
  let expected := what ++ " with " ++ toString size ++ unit
  let (a, rest) ← fields.readItems (.invalidLength · expected) 0 items
  if rest.isEmpty then return a
  else throw (.invalidLength items.length "fewer elements in array")

/-- Decodes a record from an object, or from an array of its fields in order. -/
def record (what : String) (fields : Fields α) : Decoder α
  | .object members => fields.decodeMembers members
  | .array items => fields.decodeItems what items
  | found => .error (.invalidType found what)

/-- Decodes two records whose fields are members of one object, the first one first. -/
def flattened (what : String) (own : Fields α) (inner : Fields β) (combine : α → β → γ) : Decoder γ
  | .object members => do
    let a ← own.decodeMembers members
    let b ← inner.decodeMembers members
    return combine a b
  | found => .error (.invalidType found what)

end Fields

end ControlPlane.Json
