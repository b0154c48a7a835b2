import ControlPlane.Procedure

/-!
# Policy

The provider of an environment may veto new instances: a policy either has a prechecker, has none,
or cannot say. A refusal is a chain of causes.
-/

namespace ControlPlane

/-- The causes of a chain on one line, the outermost one first. -/
def Causes.render (causes : Causes) : String :=
  ": ".intercalate causes

/-- Asks whether an instance could be provisioned. Without a prechecker every instance can. -/
def precheck (series : String) (constraints : Constraints) : Procedure Unit := do
  match ← Procedure.ask .prechecker with
  | .error causes => throw (.internalError ("cannot get prechecker: " ++ Causes.render causes))
  | .ok false => return
  | .ok true =>
    match ← Procedure.ask (.precheck series constraints) with
    | .ok () => return
    | .error causes => throw (.provisioningRejected (Causes.render causes))

/-- A check of the series and the constraints of an instance. -/
abbrev Prechecker := String → Constraints → Except Causes Unit

/-- What a policy answers when it is asked for its prechecker. -/
structure Policy where
  prechecker : Except Causes (Option Prechecker)

namespace Policy

/-- The policy that has no prechecker. -/
def permissive : Policy :=
  ⟨.ok none⟩

/-- The policy that cannot give its prechecker. -/
def broken (causes : Causes) : Policy :=
  ⟨.error causes⟩

/-- The policy that refuses some series, each for its causes. -/
def refusing (refused : List (String × Causes)) : Policy :=
  ⟨.ok (some fun series _ =>
    match Table.get? series refused with
    | some causes => .error causes
    | none => .ok ())⟩

/-- Whether a policy has a prechecker. -/
def hasPrechecker (policy : Policy) : Except Causes Bool :=
  policy.prechecker.map (·.isSome)

/-- The verdict of a policy's prechecker. -/
def verdict (policy : Policy) (series : String) (constraints : Constraints) : Except Causes Unit :=
  match policy.prechecker with
  | .ok (some check) => check series constraints
  | _ => .ok ()

end Policy

end ControlPlane
