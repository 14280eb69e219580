import ServiceKit.Config.Entropy
import ServiceKit.Config.Listener
import ServiceKit.Config.Seal
import ServiceKit.Config.Telemetry
import ServiceKit.Hcl.Reader

namespace ServiceKit

/-- The part of a configuration that all services read. -/
structure SharedConfig where
  listeners : List Listener := []
  seals : List Seal := []
  entropy : Option Entropy := none
  telemetry : Option Telemetry := none
  disableMlock : Bool := false
  defaultMaxRequestDuration : Option Duration := none
  logLevel : Option String := none
  logFormat : Option String := none
  pidFile : Option String := none
  clusterName : Option String := none
  /-- All names at the top, each once. -/
  foundKeys : List String := []
  /-- The names at the top that nothing here reads. -/
  unusedKeys : List String := []
deriving DecidableEq, Repr

namespace SharedConfig

def settings : List String :=
  ["disable_mlock", "default_max_request_duration", "log_level", "log_format", "pid_file",
    "cluster_name"]

def blockNames : List String := ["listener", "seal", "kms", "telemetry", "entropy"]

/-- Appends the members of a list that are not there yet. -/
def addNew (keys : List String) : List String → List String
  | [] => keys
  | k :: rest => addNew (if keys.contains k then keys else keys ++ [k]) rest

def names (body : Hcl.Body) : List String :=
  (Hcl.Body.attributes body).map Prod.fst ++ (Hcl.Body.blocks body).map (·.name)

def unusedNames (top : Stanza) (body : Hcl.Body) : List String :=
  addNew (top.unknown settings)
    (((Hcl.Body.blocks body).map (·.name)).filter fun n => !blockNames.contains n)

def ofBody (body : Hcl.Body) : Checked SharedConfig := do
  let top ← Stanza.ofBody "config" (Hcl.Body.withoutBlocks body)
  let disableMlock ← top.flag "disable_mlock"
  let defaultMaxRequestDuration ← top.duration "default_max_request_duration"
  let listeners ← Listener.ofBody body
  let seals ← Seal.ofBody body
  let telemetry ← Telemetry.ofBody body
  let entropy ← Entropy.ofBody body
  return {
    listeners, seals, entropy, telemetry, disableMlock, defaultMaxRequestDuration
    logLevel := top.lowercase "log_level"
    logFormat := top.lowercase "log_format"
    pidFile := top.string "pid_file"
    clusterName := top.string "cluster_name"
    foundKeys := addNew [] (names body)
    unusedKeys := unusedNames top body }

def parseError (place : String) : Stop ConfigError :=
  .error ⟨.syntaxError, some place⟩

def parse (text : String) : Checked SharedConfig :=
  match Hcl.parse? text with
  | some body => ofBody body
  | none => ⟨[], .error (parseError "config")⟩

/-- Puts one configuration on top of another: lists are joined, and of two values the later one
counts. -/
def merge (a b : SharedConfig) : SharedConfig where
  listeners := a.listeners ++ b.listeners
  seals := a.seals ++ b.seals
  entropy := b.entropy.or a.entropy
  telemetry := b.telemetry.or a.telemetry
  disableMlock := a.disableMlock || b.disableMlock
  defaultMaxRequestDuration := b.defaultMaxRequestDuration.or a.defaultMaxRequestDuration
  logLevel := b.logLevel.or a.logLevel
  logFormat := b.logFormat.or a.logFormat
  pidFile := b.pidFile.or a.pidFile
  clusterName := b.clusterName.or a.clusterName
  foundKeys := a.foundKeys ++ b.foundKeys.filter fun k => !a.foundKeys.contains k
  unusedKeys := a.unusedKeys ++ b.unusedKeys.filter fun k => !a.unusedKeys.contains k

end SharedConfig

namespace Seal

/-- Reads the seals of a document alone. -/
def parseAll (text : String) : Stanza.Read (List Seal) :=
  match Hcl.parse? text with
  | some body => ofBody body
  | none => .error (SharedConfig.parseError "kms")

end Seal

end ServiceKit
