import ControlPlane.Machine.Container

/-!
# Constraints

The resources asked for when a machine is provisioned. Every field is optional, and constraints
are layered: a field that is unset in one layer is taken from the layer below.
-/

namespace ControlPlane

/-- The resources asked for; memory and root disk are in mebibytes. -/
structure Constraints where
  arch : Option String := none
  container : Option ContainerType := none
  cpuCores : Option UInt64 := none
  cpuPower : Option UInt64 := none
  mem : Option UInt64 := none
  rootDisk : Option UInt64 := none
  tags : Option (List String) := none
  deriving DecidableEq, Repr, Inhabited

namespace Constraints

/-- Constraints that ask for nothing. -/
def empty : Constraints := {}

/-- Whether nothing is asked for. -/
def isEmpty (constraints : Constraints) : Bool :=
  constraints = empty

/-- The constraints with every unset field taken from `fallbacks`. -/
def withFallbacks (constraints fallbacks : Constraints) : Constraints where
  arch := constraints.arch <|> fallbacks.arch
  container := constraints.container <|> fallbacks.container
  cpuCores := constraints.cpuCores <|> fallbacks.cpuCores
  cpuPower := constraints.cpuPower <|> fallbacks.cpuPower
  mem := constraints.mem <|> fallbacks.mem
  rootDisk := constraints.rootDisk <|> fallbacks.rootDisk
  tags := constraints.tags <|> fallbacks.tags

/-- The names of the stored fields with what they hold, in the order of their declaration. -/
def toFields (constraints : Constraints) : List (String × Option Json.Value) :=
  [("arch", constraints.arch.map .string), ("container", constraints.container.map (·.toValue)),
    ("cpu_cores", constraints.cpuCores.map .word), ("cpu_power", constraints.cpuPower.map .word),
    ("mem", constraints.mem.map .word), ("root_disk", constraints.rootDisk.map .word),
    ("tags", constraints.tags.map .strings)]

/-- Constraints as they are stored, without the unset fields. -/
def toValue (constraints : Constraints) : Json.Value :=
  .ofFields constraints.toFields

/-- The fields of stored constraints. -/
def fields : Json.Fields Constraints :=
  Constraints.mk
    <$> Json.Fields.optional "arch" Json.Decoder.string
    <*> Json.Fields.optional "container" ContainerType.decode
    <*> Json.Fields.optional "cpu_cores" Json.Decoder.word
    <*> Json.Fields.optional "cpu_power" Json.Decoder.word
    <*> Json.Fields.optional "mem" Json.Decoder.word
    <*> Json.Fields.optional "root_disk" Json.Decoder.word
    <*> Json.Fields.optional "tags" (Json.Decoder.sequence Json.Decoder.string)

/-- Reads stored constraints. -/
def decode : Json.Decoder Constraints :=
  fields.record "struct Constraints"

@[simp] theorem withFallbacks_empty (constraints : Constraints) :
    constraints.withFallbacks empty = constraints := by
  cases constraints; simp [withFallbacks, empty]

@[simp] theorem empty_withFallbacks (constraints : Constraints) :
    empty.withFallbacks constraints = constraints := by
  cases constraints; simp [withFallbacks, empty]

end Constraints

end ControlPlane
