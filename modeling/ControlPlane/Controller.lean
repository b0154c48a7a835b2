import ControlPlane.EnvironmentConstraints
import ControlPlane.Machine.Creation
import ControlPlane.StateServers

/-!
# Controllers

A controller works on one environment and knows how many state servers may vote in it. This limit
is odd, so that a full quorum always has a majority.
-/

namespace ControlPlane

open ControlPlane.Json

/-- The configured limit on voting state servers. -/
structure QuorumConfig where
  maxPeers : Nat := 7
  deriving DecidableEq, Repr, Inhabited

namespace QuorumConfig

/-- Why a limit is not usable: it has to be odd. -/
def complaint? (quorum : QuorumConfig) : Option String :=
  if quorum.maxPeers % 2 = 0 then
    some ("quorum.max_peers must be odd and at least 1 (found " ++ toString quorum.maxPeers ++ ")")
  else none

/-- A limit in data. -/
def toValue (quorum : QuorumConfig) : Value :=
  .ofFields [("max_peers", some (.natural quorum.maxPeers))]

/-- The fields of a limit. -/
def fields : Fields QuorumConfig :=
  QuorumConfig.mk <$> Fields.withDefault 7 "max_peers" Decoder.count

/-- Reads a limit. -/
def decode : Decoder QuorumConfig :=
  fields.record "struct QuorumConfig"

end QuorumConfig

/-- A controller of an environment. -/
structure Controller where
  maxPeers : Nat
  odd : maxPeers % 2 = 1

namespace Controller

/-- A controller of an environment that exists. -/
def attach (quorum : QuorumConfig) : Except Error Controller :=
  if h : quorum.maxPeers % 2 = 1 then .ok { maxPeers := quorum.maxPeers, odd := h }
  else .error (.invalidRequest (quorum.complaint?.getD ""))

/-- Creates an environment without any machines, and a controller of it. -/
def establish (quorum : QuorumConfig) (uuid : Uuid) (constraints : Constraints) :
    Procedure Controller := do
  let controller ← attach quorum
  let ops :=
    [ (Environment.fresh uuid).insertOp, Environment.insertConstraintsOp constraints,
      StateServers.insertOp ]
  match ← Procedure.ask (.transact ops) with
  | .ok () => return controller
  | .error (.aborted _ _ _ _) =>
    throw (.objectAlreadyExists .environment Layout.environmentKey)
  | .error error => throw error.toError

end Controller

end ControlPlane
