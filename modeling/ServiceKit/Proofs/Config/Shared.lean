import ServiceKit.Config.Shared
import ServiceKit.Proofs.Config.Stanza

namespace ServiceKit

namespace Seal

/-- A seal as its stanza says it, setting by setting. -/
structure ReadFrom (s : Stanza) (holder : Seal) : Prop where
  purpose : ∃ purpose, s.strings "purpose" = .ok purpose ∧ holder.purpose = purpose.map Text.toLower
  disabled : s.flag "disabled" = .ok holder.disabled
  priority : s.int "priority" = .ok holder.priority
  name : holder.name = s.string "name"
  config : holder.config = configOf s

theorem ofBlock_ok {block : String} {index : Nat} {b : Hcl.Block} {holder : Seal}
    (ran : ofBlock block index b = .ok holder) :
    ∃ s, b.label? (block ++ "." ++ toString index) = .ok (some holder.kind) ∧
      Stanza.ofBody (block ++ "." ++ toString index) b.body = .ok s ∧ ReadFrom s holder := by
  unfold ofBlock at ran
  obtain ⟨label, atLabel, ran⟩ := Outcome.bind_ok ran
  cases label with
  | none => cases ran
  | some kind =>
    obtain ⟨s, atBody, ran⟩ := Outcome.bind_ok ran
    obtain ⟨purpose, atPurpose, ran⟩ := Outcome.bind_ok ran
    obtain ⟨disabled, atDisabled, ran⟩ := Outcome.bind_ok ran
    obtain ⟨priority, atPriority, ran⟩ := Outcome.bind_ok ran
    cases ran
    exact ⟨s, atLabel, atBody, ⟨purpose, atPurpose, rfl⟩, atDisabled, atPriority, rfl, rfl⟩

/-- The seals of one block name, in the order of their blocks. -/
theorem ofBlocks_ok {body : Hcl.Body} {block : String} {seals : List Seal}
    (ran : ofBlocks body block = .ok seals) :
    List.Forall₂ (fun b holder => ofBlock block b.2 b.1 = .ok holder)
      (body.blocksNamed block).zipIdx seals := by
  obtain ⟨blocks, found, ran⟩ := Outcome.bind_ok ran
  obtain ⟨rfl, -⟩ := Hcl.Body.blocksUpTo_ok found
  exact Outcome.mapM_ok ran

end Seal

theorem Telemetry.ofBody_congr {a b : Hcl.Body} (same : a.blocksNamed "telemetry" = b.blocksNamed "telemetry") :
    ofBody a = ofBody b := by
  unfold ofBody Hcl.Body.blocksUpTo
  rw [same]

theorem Entropy.ofBody_congr {a b : Hcl.Body} (same : a.blocksNamed "entropy" = b.blocksNamed "entropy") :
    ofBody a = ofBody b := by
  unfold ofBody Hcl.Body.blocksUpTo
  rw [same]

namespace SharedConfig

/-- A configuration as its document says it, part by part. -/
structure ReadFrom (top : Stanza) (body : Hcl.Body) (c : SharedConfig) : Prop where
  atTop : Stanza.ofBody "config" (Hcl.Body.withoutBlocks body) = .ok top
  listeners : (Listener.ofBody body).result = .ok c.listeners
  seals : Seal.ofBody body = .ok c.seals
  telemetry : (Telemetry.ofBody body).result = .ok c.telemetry
  entropy : (Entropy.ofBody body).result = .ok c.entropy
  disableMlock : top.flag "disable_mlock" = .ok c.disableMlock
  defaultMaxRequestDuration : top.duration "default_max_request_duration" = .ok c.defaultMaxRequestDuration
  logLevel : c.logLevel = top.lowercase "log_level"
  logFormat : c.logFormat = top.lowercase "log_format"
  pidFile : c.pidFile = top.string "pid_file"
  clusterName : c.clusterName = top.string "cluster_name"
  foundKeys : c.foundKeys = addNew [] (names body)
  unusedKeys : c.unusedKeys = unusedNames top body

theorem ofBody_ok {body : Hcl.Body} {c : SharedConfig} (ran : (ofBody body).result = .ok c) :
    ∃ top, ReadFrom top body c := by
  unfold ofBody at ran
  obtain ⟨top, atTop, ran⟩ := Checked.bind_ok ran
  obtain ⟨mlock, atMlock, ran⟩ := Checked.bind_ok ran
  obtain ⟨duration, atDuration, ran⟩ := Checked.bind_ok ran
  obtain ⟨listeners, atListeners, ran⟩ := Checked.bind_ok ran
  obtain ⟨seals, atSeals, ran⟩ := Checked.bind_ok ran
  obtain ⟨telemetry, atTelemetry, ran⟩ := Checked.bind_ok ran
  obtain ⟨entropy, atEntropy, ran⟩ := Checked.bind_ok ran
  cases ran
  exact ⟨top, atTop, atListeners, atSeals, atTelemetry, atEntropy, atMlock, atDuration, rfl, rfl, rfl, rfl,
    rfl, rfl⟩

/-- A document of which every part can be read is accepted. -/
theorem ofBody_of_readFrom {top : Stanza} {body : Hcl.Body} {c : SharedConfig} (read : ReadFrom top body c) :
    (ofBody body).result = .ok c := by
  have whole : c = {
      listeners := c.listeners, seals := c.seals, entropy := c.entropy, telemetry := c.telemetry
      disableMlock := c.disableMlock, defaultMaxRequestDuration := c.defaultMaxRequestDuration
      logLevel := top.lowercase "log_level", logFormat := top.lowercase "log_format"
      pidFile := top.string "pid_file", clusterName := top.string "cluster_name"
      foundKeys := addNew [] (names body), unusedKeys := unusedNames top body } := by
    rw [← read.logLevel, ← read.logFormat, ← read.pidFile, ← read.clusterName, ← read.foundKeys,
      ← read.unusedKeys]
  rw [whole]
  unfold ofBody
  refine Checked.bind_of_ok read.atTop (Checked.bind_of_ok read.disableMlock ?_)
  refine Checked.bind_of_ok read.defaultMaxRequestDuration (Checked.bind_of_ok read.listeners ?_)
  refine Checked.bind_of_ok read.seals (Checked.bind_of_ok read.telemetry ?_)
  exact Checked.bind_of_ok read.entropy rfl

/-- What is accepted of a text was read from its body. -/
theorem parse_ok {text : String} {c : SharedConfig} (ran : (parse text).result = .ok c) :
    ∃ body, Hcl.parse? text = some body ∧ (ofBody body).result = .ok c := by
  unfold parse at ran
  cases atText : Hcl.parse? text with
  | none =>
    rw [atText] at ran
    cases ran
  | some body =>
    rw [atText] at ran
    exact ⟨body, rfl, ran⟩

end SharedConfig

end ServiceKit
