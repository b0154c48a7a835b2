import ControlPlane.Json.Decode

/-!
# Hardware

What is known of the hardware of an instance that exists already.
-/

namespace ControlPlane

/-- The hardware of an instance; memory and root disk are in mebibytes. -/
structure Hardware where
  arch : Option String := none
  mem : Option UInt64 := none
  rootDisk : Option UInt64 := none
  cpuCores : Option UInt64 := none
  cpuPower : Option UInt64 := none
  tags : Option (List String) := none
  deriving DecidableEq, Repr, Inhabited

namespace Hardware

/-- The stored fields, of which the unset ones are left out. -/
def toFields (hardware : Hardware) : List (String × Option Json.Value) :=
  [("arch", hardware.arch.map .string), ("mem", hardware.mem.map .word),
    ("root_disk", hardware.rootDisk.map .word), ("cpu_cores", hardware.cpuCores.map .word),
    ("cpu_power", hardware.cpuPower.map .word), ("tags", hardware.tags.map .strings)]

/-- Hardware as it is stored. -/
def toValue (hardware : Hardware) : Json.Value :=
  .ofFields hardware.toFields

/-- The fields of stored hardware. -/
def fields : Json.Fields Hardware :=
  Hardware.mk
    <$> Json.Fields.optional "arch" Json.Decoder.string
    <*> Json.Fields.optional "mem" Json.Decoder.word
    <*> Json.Fields.optional "root_disk" Json.Decoder.word
    <*> Json.Fields.optional "cpu_cores" Json.Decoder.word
    <*> Json.Fields.optional "cpu_power" Json.Decoder.word
    <*> Json.Fields.optional "tags" (Json.Decoder.sequence Json.Decoder.string)

/-- Reads stored hardware. -/
def decode : Json.Decoder Hardware :=
  fields.record "struct HardwareCharacteristics"

end Hardware

end ControlPlane
