import ControlPlane.Json.Decode

/-!
# Errors

Every failure of a request is one of these. Only a lost race and an unavailable store are worth
trying again, and only errors whose message is internal take context in front of it.
-/

namespace ControlPlane

/-- The kinds of object that an error can name. -/
inductive ResourceType where
  | environment
  | machine
  | containerRef
  | constraints
  | status
  | instanceData
  | stateServerInfo
  | sequence
  deriving DecidableEq, Repr

namespace ResourceType

/-- The name of a kind of object in data. -/
def word : ResourceType → String
  | environment => "Environment"
  | machine => "Machine"
  | containerRef => "ContainerRef"
  | constraints => "Constraints"
  | status => "Status"
  | instanceData => "InstanceData"
  | stateServerInfo => "StateServerInfo"
  | sequence => "Sequence"

/-- The name of a kind of object in messages. -/
def title : ResourceType → String
  | environment => "environment"
  | machine => "machine"
  | containerRef => "container-ref"
  | constraints => "constraints"
  | status => "status"
  | instanceData => "instance-data"
  | stateServerInfo => "state-server-info"
  | sequence => "sequence"

instance : Keyword ResourceType where
  all :=
    [environment, machine, containerRef, constraints, status, instanceData, stateServerInfo,
      sequence]
  word := word
  mem_all a := by cases a <;> decide
  word_injective a b := by cases a <;> cases b <;> decide

/-- Reads a kind of object. -/
def decode : Json.Decoder ResourceType :=
  Json.Decoder.keyword

end ResourceType

/-- How an object was looked up. -/
inductive Lookup where
  | byId (id : String)
  | byGlobalKey (key : String)
  deriving DecidableEq, Repr

namespace Lookup

/-- The wording of a lookup. -/
def message : Lookup → String
  | byId id => "id \"" ++ id ++ "\""
  | byGlobalKey key => "key \"" ++ key ++ "\""

/-- A lookup in data. -/
def toValue : Lookup → Json.Value
  | byId id => .object [("ById", .string id)]
  | byGlobalKey key => .object [("ByGlobalKey", .string key)]

/-- Reads a lookup. -/
def decode : Json.Decoder Lookup := fun found => do
  let (word, payload) ← Json.Decoder.choice found
  let make ←
    match word with
    | "ById" => pure byId
    | "ByGlobalKey" => pure byGlobalKey
    | _ => throw (.unknownVariant word ["ById", "ByGlobalKey"])
  match payload with
  | some payload => return make (← Json.Decoder.string payload)
  | none => throw (.malformed "invalid type: unit variant, expected newtype variant")

end Lookup

/-- A failure of a request. -/
inductive Error where
  | invalidTemplate (message : String)
  | invalidRequest (message : String)
  | permissionDenied (message : String)
  | objectNotFound (type : ResourceType) (lookup : Lookup)
  | objectAlreadyExists (type : ResourceType) (name : String)
  | unsupportedContainer (machineId containerType : String)
  | provisioningRejected (message : String)
  | environmentNotAlive
  | stateServerNotAllowed
  | cannotReduce (current requested : Nat)
  | invalidTarget (message : String)
  | transactionAborted (internalMessage : String)
  | internalError (internalMessage : String)
  | serviceUnavailable (internalMessage : String)
  deriving DecidableEq, Repr

namespace Error

/-- The wording of an error. -/
def message : Error → String
  | invalidTemplate message => "Invalid Template: " ++ message
  | invalidRequest message => "Invalid Request: " ++ message
  | permissionDenied message => "Permission Denied: " ++ message
  | objectNotFound type lookup =>
    "Object (of type " ++ type.title ++ ") not found: " ++ lookup.message
  | objectAlreadyExists type name =>
    "Object (of type " ++ type.title ++ ") already exists: " ++ name
  | unsupportedContainer machineId containerType =>
    "machine " ++ machineId ++ " cannot host " ++ containerType ++ " containers"
  | provisioningRejected message => "Provisioning Rejected: " ++ message
  | environmentNotAlive => "environment is no longer alive"
  | stateServerNotAllowed => "state server jobs specified without calling EnsureAvailability"
  | cannotReduce current requested =>
    "cannot reduce state server count (currently " ++ toString current ++ ", requested " ++
      toString requested ++ ")"
  | invalidTarget message => "Invalid Target: " ++ message
  | transactionAborted message => "Transaction Aborted: " ++ message
  | internalError message => "Internal Error: " ++ message
  | serviceUnavailable message => "Service Unavailable: " ++ message

/-- Whether the error is likely to pass, so that the request is worth another try. -/
def retryable : Error → Bool
  | transactionAborted _ => true
  | serviceUnavailable _ => true
  | _ => false

/-- Puts context before an internal message and leaves every other error alone. -/
def inContext (context : String) : Error → Error
  | transactionAborted message => transactionAborted (context ++ ": " ++ message)
  | internalError message => internalError (context ++ ": " ++ message)
  | serviceUnavailable message => serviceUnavailable (context ++ ": " ++ message)
  | error => error

/-- The name of an error's case in data. -/
def word : Error → String
  | invalidTemplate _ => "InvalidTemplate"
  | invalidRequest _ => "InvalidRequest"
  | permissionDenied _ => "PermissionDenied"
  | objectNotFound _ _ => "ObjectNotFound"
  | objectAlreadyExists _ _ => "ObjectAlreadyExists"
  | unsupportedContainer _ _ => "UnsupportedContainer"
  | provisioningRejected _ => "ProvisioningRejected"
  | environmentNotAlive => "EnvironmentNotAlive"
  | stateServerNotAllowed => "StateServerNotAllowed"
  | cannotReduce _ _ => "CannotReduce"
  | invalidTarget _ => "InvalidTarget"
  | transactionAborted _ => "TransactionAborted"
  | internalError _ => "InternalError"
  | serviceUnavailable _ => "ServiceUnavailable"

/-- The names of all cases. -/
def words : List String :=
  ["InvalidTemplate", "InvalidRequest", "PermissionDenied", "ObjectNotFound",
    "ObjectAlreadyExists", "UnsupportedContainer", "ProvisioningRejected", "EnvironmentNotAlive",
    "StateServerNotAllowed", "CannotReduce", "InvalidTarget", "TransactionAborted",
    "InternalError", "ServiceUnavailable"]

/-- An error in data: the name of its case, with its fields if it has any. -/
def toValue (error : Error) : Json.Value :=
  let withFields (fields : List (String × Json.Value)) : Json.Value :=
    .object [(error.word, .ofFields (fields.map fun (name, value) => (name, some value)))]
  match error with
  | invalidTemplate message => withFields [("message", .string message)]
  | invalidRequest message => withFields [("message", .string message)]
  | permissionDenied message => withFields [("message", .string message)]
  | objectNotFound type lookup =>
    withFields [("type_name", .string type.word), ("lookup_type", lookup.toValue)]
  | objectAlreadyExists type name =>
    withFields [("type_name", .string type.word), ("object_name", .string name)]
  | unsupportedContainer machineId containerType =>
    withFields [("machine_id", .string machineId), ("container_type", .string containerType)]
  | provisioningRejected message => withFields [("message", .string message)]
  | environmentNotAlive => .string error.word
  | stateServerNotAllowed => .string error.word
  | cannotReduce current requested =>
    withFields [("current", .natural current), ("requested", .natural requested)]
  | invalidTarget message => withFields [("message", .string message)]
  | transactionAborted message => withFields [("internal_message", .string message)]
  | internalError message => withFields [("internal_message", .string message)]
  | serviceUnavailable message => withFields [("internal_message", .string message)]

open Json in
/-- Reads an error. -/
def decode : Decoder Error := fun found => do
  let (word, payload) ← Decoder.choice found
  let bare (error : Error) : Except DecodeError Error :=
    match payload with
    | none => .ok error
    | some payload => (Decoder.unit payload).map fun _ => error
  let withFields (fields : Fields Error) : Except DecodeError Error :=
    match payload with
    | some (.object members) => fields.decodeMembers members
    | some payload => .error (.invalidType payload "struct variant")
    | none => .error (.malformed "invalid type: unit variant, expected struct variant")
  let withText (name : String) (make : String → Error) : Except DecodeError Error :=
    withFields (make <$> Fields.required name Decoder.string)
  match word with
  | "InvalidTemplate" => withText "message" invalidTemplate
  | "InvalidRequest" => withText "message" invalidRequest
  | "PermissionDenied" => withText "message" permissionDenied
  | "ObjectNotFound" =>
    withFields
      (objectNotFound <$> Fields.required "type_name" ResourceType.decode
        <*> Fields.required "lookup_type" Lookup.decode)
  | "ObjectAlreadyExists" =>
    withFields
      (objectAlreadyExists <$> Fields.required "type_name" ResourceType.decode
        <*> Fields.required "object_name" Decoder.string)
  | "UnsupportedContainer" =>
    withFields
      (unsupportedContainer <$> Fields.required "machine_id" Decoder.string
        <*> Fields.required "container_type" Decoder.string)
  | "ProvisioningRejected" => withText "message" provisioningRejected
  | "EnvironmentNotAlive" => bare environmentNotAlive
  | "StateServerNotAllowed" => bare stateServerNotAllowed
  | "CannotReduce" =>
    withFields
      (cannotReduce <$> Fields.required "current" Decoder.count
        <*> Fields.required "requested" Decoder.count)
  | "InvalidTarget" => withText "message" invalidTarget
  | "TransactionAborted" => withText "internal_message" transactionAborted
  | "InternalError" => withText "internal_message" internalError
  | "ServiceUnavailable" => withText "internal_message" serviceUnavailable
  | _ => throw (.unknownVariant word words)

/-- Context never changes whether an error is worth another try. -/
@[simp] theorem retryable_inContext (context : String) (error : Error) :
    (error.inContext context).retryable = error.retryable := by
  cases error <;> rfl

end Error

end ControlPlane
