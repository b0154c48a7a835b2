import ControlPlane.Constraints.Basic

/-!
# Writing constraints

The text form of constraints: a word for each field that is set, in the order of the fields.
-/

namespace ControlPlane.Constraints

/-- The words for the fields that are set. -/
def words (constraints : Constraints) : List String :=
  [ constraints.arch.map fun arch => "arch=" ++ arch,
    constraints.container.map fun kind => "container=" ++ kind.word,
    constraints.cpuCores.map fun n => "cpu-cores=" ++ toString n.toNat,
    constraints.cpuPower.map fun n => "cpu-power=" ++ toString n.toNat,
    constraints.mem.map fun n => "mem=" ++ toString n.toNat ++ "M",
    constraints.rootDisk.map fun n => "root-disk=" ++ toString n.toNat ++ "M",
    constraints.tags.map fun tags => "tags=" ++ ",".intercalate tags ].reduceOption

/-- The text form of constraints. -/
def render (constraints : Constraints) : String :=
  " ".intercalate constraints.words

end ControlPlane.Constraints
