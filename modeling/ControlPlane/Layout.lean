import ControlPlane.Procedure

/-!
# Where records are kept

The names of the collections and the keys under which records of the environment and records
about a machine are stored.
-/

namespace ControlPlane

namespace Layout

/-- The collection of the environment. -/
def environments : String := "environments"

/-- The collection of machines. -/
def machines : String := "machines"

/-- The collection of the lists of containers on each machine. -/
def containerRefs : String := "containerRefs"

/-- The collection of constraints. -/
def constraints : String := "constraints"

/-- The collection of statuses. -/
def statuses : String := "statuses"

/-- The collection of instances. -/
def instanceData : String := "instanceData"

/-- The collection of the set of state servers. -/
def stateServers : String := "stateServers"

/-- The collection of counters. -/
def sequence : String := "sequence"

/-- The key of the environment and of the records it has one of. -/
def environmentKey : String := "e"

/-- What the keys of records about a machine begin with. -/
def machineMark : String := "m#"

/-- The key of the records about a machine. -/
def machineKey (id : String) : String :=
  machineMark ++ id

end Layout

/-- How a document with this key counts as looked up: by global key if the key has the form of one,
and else by id. -/
def Lookup.ofKey (key : String) : Lookup :=
  if Layout.machineMark.toList.isPrefixOf key.toList ∨ key = Layout.environmentKey then
    .byGlobalKey key
  else .byId key

namespace Procedure

variable {α : Type}

/-- Fetches a record, or nothing where there is none. -/
def fetch? (decode : Json.Decoder α) (collection key : String) : Procedure (Option α) := do
  match ← answered (← ask (.get collection key)) with
  | none => return none
  | some document => return some (← decoded decode document)

/-- Fetches a record that has to be there. -/
def fetch (decode : Json.Decoder α) (type : ResourceType) (collection key : String) :
    Procedure α := do
  match ← fetch? decode collection key with
  | some record => return record
  | none => throw (.objectNotFound type (.ofKey key))

end Procedure

end ControlPlane
