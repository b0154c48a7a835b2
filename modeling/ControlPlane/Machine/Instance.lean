import ControlPlane.Machine.Hardware

/-!
# Instances

The identifier that a provider gives to the instance behind a machine, and the record of the
instance of a machine whose instance is known.
-/

namespace ControlPlane

/-- The identifier of an instance, in the provider's own terms. -/
structure InstanceId where
  text : String
  deriving DecidableEq, Repr

namespace InstanceId

/-- An empty identifier counts as no identifier. -/
def isEmpty (id : InstanceId) : Bool :=
  id.text.isEmpty

/-- Identifiers in the order of their UTF-8 bytes. -/
def sort (ids : List InstanceId) : List InstanceId :=
  ids.mergeSort fun a b => !decide (b.text < a.text)

/-- An identifier as it is stored. -/
def toValue (id : InstanceId) : Json.Value :=
  .string id.text

/-- Reads a stored identifier. -/
def decode : Json.Decoder InstanceId := fun found =>
  (Json.Decoder.string found).map InstanceId.mk

end InstanceId

/-- The instance of a machine. -/
structure InstanceData where
  machineId : String
  instanceId : InstanceId
  hardware : Hardware
  deriving DecidableEq, Repr

namespace InstanceData

/-- An instance as it is stored, with the hardware beside its own fields. -/
def toValue (data : InstanceData) : Json.Value :=
  .ofFields
    ([("_id", some (.string data.machineId)), ("instance_id", some data.instanceId.toValue)] ++
      data.hardware.toFields)

/-- The fields of a stored instance that are not about hardware. -/
def ownFields : Json.Fields (String × InstanceId) :=
  Prod.mk
    <$> Json.Fields.required "_id" Json.Decoder.string
    <*> Json.Fields.required "instance_id" InstanceId.decode

/-- Reads a stored instance. -/
def decode : Json.Decoder InstanceData :=
  ownFields.flattened "struct InstanceData" Hardware.fields fun (machineId, instanceId) hardware =>
    { machineId, instanceId, hardware }

end InstanceData

end ControlPlane
