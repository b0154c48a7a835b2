import ControlPlane.Json.Decode
import ControlPlane.Machine.AddressNotation

/-!
# Addresses

An address of a machine, with the kind that its notation shows and the scope it is reachable in.
-/

namespace ControlPlane

/-- The kind of an address. -/
inductive AddressKind where
  | ipv4
  | ipv6
  | hostname
  deriving DecidableEq, Repr

namespace AddressKind

/-- The word for a kind of address. -/
def word : AddressKind → String
  | ipv4 => "ipv4"
  | ipv6 => "ipv6"
  | hostname => "hostname"

instance : Keyword AddressKind where
  all := [ipv4, ipv6, hostname]
  word := word
  mem_all a := by cases a <;> decide
  word_injective a b := by cases a <;> cases b <;> decide

/-- The kind that a text shows. A text that begins with a dotted address is never a colon address,
and whatever is neither as a whole is a host name. -/
def ofText (text : String) : AddressKind :=
  match AddressNotation.readDotted text.toList with
  | some rest => if rest.isEmpty then ipv4 else hostname
  | none =>
    match AddressNotation.readColons text.toList with
    | some [] => ipv6
    | _ => hostname

end AddressKind

/-- How widely an address is reachable. -/
inductive NetworkScope where
  | unknown
  | publicNetwork
  | cloudLocal
  | machineLocal
  deriving DecidableEq, Repr

namespace NetworkScope

/-- The word for a scope. -/
def word : NetworkScope → String
  | unknown => "unknown"
  | publicNetwork => "public"
  | cloudLocal => "cloud-local"
  | machineLocal => "machine-local"

instance : Keyword NetworkScope where
  all := [unknown, publicNetwork, cloudLocal, machineLocal]
  word := word
  mem_all a := by cases a <;> decide
  word_injective a b := by cases a <;> cases b <;> decide

end NetworkScope

/-- An address of a machine. -/
structure Address where
  value : String
  kind : AddressKind
  scope : NetworkScope
  deriving DecidableEq, Repr

namespace Address

/-- The address that a text denotes. -/
def ofText (text : String) (scope : NetworkScope) : Address :=
  { value := text, kind := .ofText text, scope }

/-- The stored fields. -/
def toFields (address : Address) : List (String × Option Json.Value) :=
  [("value", some (.string address.value)), ("kind", some (.string address.kind.word)),
    ("scope", some (.string address.scope.word))]

/-- An address as it is stored. -/
def toValue (address : Address) : Json.Value :=
  .ofFields address.toFields

/-- The fields of a stored address. -/
def fields : Json.Fields Address :=
  Address.mk
    <$> Json.Fields.required "value" Json.Decoder.string
    <*> Json.Fields.required "kind" Json.Decoder.keyword
    <*> Json.Fields.required "scope" Json.Decoder.keyword

/-- Reads a stored address. -/
def decode : Json.Decoder Address :=
  fields.record "struct Address"

end Address

end ControlPlane
