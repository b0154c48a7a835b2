import ControlPlane.Layout
import ControlPlane.Machine.Container
import ControlPlane.Text.Split

/-!
# Identity of machines

The id of a root machine is a number. The id of a container is the id of its parent, the kind of
the container and a number, with slashes between them. The numbers come from counters: one for all
root machines, and one for each kind of container on each machine.
-/

namespace ControlPlane

/-- Takes the next number of a counter; numbers start at zero and are never used again. -/
def nextNumber (counter : String) : Procedure Nat :=
  Procedure.inContext ("cannot increment " ++ Text.quoted counter) do
    Procedure.answered (← Procedure.ask (.increment Layout.sequence counter "counter"))

namespace MachineId

/-- The counter of root machines. -/
def rootCounter : String := "machine"

/-- The counter of one kind of container on one machine. -/
def containerCounter (parent : String) (kind : ContainerType) : String :=
  "machine" ++ parent ++ kind.word ++ "Container"

/-- The id of the root machine with a number. -/
def root (number : Nat) : String :=
  toString number

/-- The id of the container with a number. -/
def container (parent : String) (kind : ContainerType) (number : Nat) : String :=
  parent ++ "/" ++ kind.word ++ "/" ++ toString number

/-- The id of the machine that hosts a container: what is left without the last two parts. -/
def parent? (id : String) : Option String := do
  let (rest, _) ← Text.cutLast '/' id.toList
  let (parent, _) ← Text.cutLast '/' rest
  return String.ofList parent

/-- Takes the next id of a root machine. -/
def nextRoot : Procedure String :=
  root <$> nextNumber rootCounter

/-- Takes the next id of a container. -/
def nextContainer (parent : String) (kind : ContainerType) : Procedure String :=
  container parent kind <$> nextNumber (containerCounter parent kind)

end MachineId

end ControlPlane
