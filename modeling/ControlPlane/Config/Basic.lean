import ControlPlane.Config.Logging
import ControlPlane.Controller
import ControlPlane.Toml.Reader

/-!
# Configuration

The configuration file of a control plane says how it logs and how many state servers may vote.
-/

namespace ControlPlane

/-- The configuration of a control plane. -/
structure Config where
  log : Logging
  quorum : QuorumConfig := {}
  deriving DecidableEq, Repr

/-- Why a file is no configuration. -/
inductive ConfigError where
  | unreadable
  | unparsable
  | invalid (complaint : String)
  deriving DecidableEq, Repr

/-- The wording of a refused file, with its path and, where the file could not be read or parsed,
the cause. -/
def ConfigError.message (path cause : String) : ConfigError → String
  | unreadable => "Failed to read config from " ++ path ++ ": " ++ cause
  | unparsable => "Failed to parse config from " ++ path ++ ": " ++ cause
  | invalid complaint => "Invalid config in " ++ path ++ ": " ++ complaint

/-- Reads the number of peers. -/
def QuorumConfig.readPeers : Toml.Value → Option QuorumConfig
  | .integer number => if 0 ≤ number then some { maxPeers := number.toNat } else none
  | _ => none

/-- Reads a limit: a table, or an array whose first item is the limit. A date has no fields at all,
so it leaves the limit at its default. -/
def QuorumConfig.ofToml : Toml.Value → Option QuorumConfig
  | .table entries =>
    match Table.get? "max_peers" entries with
    | none => some {}
    | some value => readPeers value
  | .array [] => some {}
  | .array (value :: _) => readPeers value
  | .date => some {}
  | _ => none

namespace Config

/-- Reads a configuration from a document. -/
def ofToml (entries : List (String × Toml.Value)) : Option Config := do
  let log ← Logging.ofToml (← Table.get? "log" entries)
  let quorum ←
    match Table.get? "quorum" entries with
    | none => some {}
    | some value => QuorumConfig.ofToml value
  return { log, quorum }

/-- Reads a configuration from the text of a file. -/
def parse (text : String) : Except ConfigError Config :=
  match (Toml.parse? text).bind ofToml with
  | none => .error .unparsable
  | some config =>
    match config.quorum.complaint? with
    | some complaint => .error (.invalid complaint)
    | none => .ok config

/-- Reads a configuration from the contents of a file, where `none` stands for a file that does not
exist. -/
def ofFile (contents : Option ByteArray) : Except ConfigError Config :=
  match contents.bind String.fromUTF8? with
  | none => .error .unreadable
  | some text => parse text

end Config

end ControlPlane
