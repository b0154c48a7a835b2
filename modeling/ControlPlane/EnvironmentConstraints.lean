import ControlPlane.Environment

/-!
# Constraints of the environment

The defaults for every constraint that a template leaves unset. They are replaced as a whole:
a field that is not set anew is overwritten with null.
-/

namespace ControlPlane.Environment

open ControlPlane.Json ControlPlane.Store

/-- Inserts the constraints of a new environment. -/
def insertConstraintsOp (constraints : Constraints) : Op :=
  .insert Layout.constraints Layout.environmentKey constraints.toValue

/-- The names of the fields that are overwritten. -/
def replacedFields : List String :=
  ["arch", "container", "cpu_cores", "cpu_power", "mem", "root_disk", "tags"]

/-- Overwrites every field of the constraints. -/
def replaceConstraintsOp (constraints : Constraints) : Op :=
  .update Layout.constraints Layout.environmentKey .present
    (replacedFields.map fun name => .set name (constraints.toValue.field name))

/-- Fetches the constraints of the environment. -/
def constraints : Procedure Constraints :=
  Procedure.fetch Constraints.decode .constraints Layout.constraints Layout.environmentKey

/-- Replaces the constraints of the environment; machines that exist keep theirs. -/
def setConstraints (constraints : Constraints) : Procedure Unit :=
  commit [replaceConstraintsOp constraints]

end ControlPlane.Environment
