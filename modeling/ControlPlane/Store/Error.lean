import ControlPlane.Store.Operation

/-!
# Errors of the store

A transaction is aborted by an assertion that does not hold, or invalid by an operation that does
not fit its document; and any call may find the store unavailable.
-/

namespace ControlPlane

open ControlPlane.Store

/-- A failure of a call on the store. -/
inductive StoreError where
  | aborted (index : Nat) (collection id : String) (reason : AbortReason)
  | invalidOp (index : Nat) (collection id : String) (cause : Misfit)
  | unavailable (message : String)
  deriving DecidableEq, Repr

namespace StoreError

/-- The wording of a failure. -/
def message : StoreError → String
  | aborted index collection id reason =>
    "transaction aborted: op " ++ toString index ++ " on " ++ collection ++ "/" ++ id ++ ": " ++
      reason.word
  | invalidOp index collection id cause =>
    "invalid op " ++ toString index ++ " on " ++ collection ++ "/" ++ id ++ ": " ++ cause.message
  | unavailable message => "document store unavailable: " ++ message

/-- The failure of an effect that cannot take place. -/
def ofObstacle (index : Nat) (op : Op) : Obstacle → StoreError
  | .occupied => aborted index op.collection op.id .documentExists
  | .misfit cause => invalidOp index op.collection op.id cause

end StoreError

end ControlPlane
