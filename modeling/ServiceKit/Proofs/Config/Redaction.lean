import ServiceKit.Config.Document
import ServiceKit.Proofs.Config.Shared
import ServiceKit.Proofs.Config.Stanza

namespace ServiceKit

namespace Seal

/-- The keys of a seal that are meant for anyone's eyes. -/
def shown : List String := ["purpose", "disabled"]

/-- An item of a document without the secrets of a seal. -/
def redact : Hcl.Item → Hcl.Item
  | .attr name value => .attr name value
  | .block name labels body =>
    .block name labels (if name ∈ blockNames then body.map (Hcl.Item.masked shown) else body)

def redactBlock (b : Hcl.Block) : Hcl.Block :=
  { b with body := if b.name ∈ blockNames then b.body.map (Hcl.Item.masked shown) else b.body }

end Seal

namespace Hcl.Body

/-- A document without the secrets of its seals. -/
def redacted (b : Body) : Body :=
  b.map Seal.redact

theorem attributes_redacted (b : Body) : attributes (redacted b) = attributes b := by
  unfold attributes redacted
  rw [List.filterMap_map]
  congr 1
  funext i
  cases i <;> rfl

theorem withoutBlocks_redacted (b : Body) : withoutBlocks (redacted b) = withoutBlocks b := by
  induction b with
  | nil => rfl
  | cons i b ih =>
    cases i with
    | attr name value => exact congrArg (Item.attr name value :: ·) ih
    | block => exact ih

theorem blocks_redacted (b : Body) : blocks (redacted b) = (blocks b).map Seal.redactBlock := by
  unfold blocks redacted
  rw [List.filterMap_map, List.map_filterMap]
  congr 1
  funext i
  cases i <;> rfl

theorem blockNames_redacted (b : Body) : (blocks (redacted b)).map (·.name) = (blocks b).map (·.name) := by
  rw [blocks_redacted, List.map_map]
  rfl

theorem blocksNamed_redacted (b : Body) (name : String) :
    blocksNamed (redacted b) name = (blocksNamed b name).map Seal.redactBlock := by
  unfold blocksNamed
  rw [blocks_redacted, List.filter_map]
  rfl

/-- Only seals have secrets. -/
theorem blocksNamed_redacted_of_notMem (b : Body) {name : String} (other : name ∉ Seal.blockNames) :
    blocksNamed (redacted b) name = blocksNamed b name := by
  rw [blocksNamed_redacted]
  refine (List.map_congr_left fun block member => ?_).trans (List.map_id _)
  have named : block.name = name := by simpa using (List.mem_filter.mp member).2
  rw [Seal.redactBlock, if_neg (named ▸ other)]
  rfl

end Hcl.Body

namespace Seal

/-- Blocks that are the same once redacted are read as seals that show the same. -/
theorem ofBlock_redacted {block : String} {index : Nat} {b c : Hcl.Block} {s t : Seal}
    (isSeal : b.name ∈ blockNames) (same : redactBlock b = redactBlock c)
    (ran : ofBlock block index b = .ok s) (ran' : ofBlock block index c = .ok t) :
    SharedConfig.sealView s = SharedConfig.sealView t := by
  obtain ⟨names, labels, bodies⟩ := Hcl.Block.mk.inj same
  rw [if_pos isSeal, if_pos (names ▸ isSeal)] at bodies
  obtain ⟨stanza, atLabel, atBody, read⟩ := ofBlock_ok ran
  obtain ⟨stanza', atLabel', atBody', read'⟩ := ofBlock_ok ran'
  have alike := Hcl.fields?_alike bodies (Stanza.ofBody_ok atBody).2 (Stanza.ofBody_ok atBody').2
  have kinds : s.kind = t.kind := by
    unfold Hcl.Block.label? at atLabel atLabel'
    rw [labels, atLabel'] at atLabel
    exact (Option.some.inj (Except.ok.inj atLabel)).symm
  have purposes : s.purpose = t.purpose := by
    obtain ⟨texts, ran, lowered⟩ := read.purpose
    obtain ⟨texts', ran', lowered'⟩ := read'.purpose
    obtain ⟨found, atKey, rfl⟩ := Outcome.map_ok ran
    obtain ⟨found', atKey', rfl⟩ := Outcome.map_ok ran'
    rw [lowered, lowered',
      Stanza.read_alike List.mem_cons_self alike (fun _ => Value.readStrings_nested) atKey atKey']
  have disabled : s.disabled = t.disabled := by
    obtain ⟨found, atKey, switch⟩ := Outcome.map_ok read.disabled
    obtain ⟨found', atKey', switch'⟩ := Outcome.map_ok read'.disabled
    rw [← switch, ← switch',
      Stanza.read_alike (List.mem_cons_of_mem _ List.mem_cons_self) alike
        (fun _ => Value.readBool_nested) atKey atKey']
  rw [SharedConfig.sealView, SharedConfig.sealView, kinds, purposes, disabled]

theorem views_of_blocks {block : String} {index : Nat} {bs cs : List Hcl.Block} {ss ts : List Seal}
    (areSeals : ∀ b ∈ bs, b.name ∈ blockNames) (same : bs.map redactBlock = cs.map redactBlock)
    (ran : List.Forall₂ (fun b s => ofBlock block b.2 b.1 = .ok s) (bs.zipIdx index) ss)
    (ran' : List.Forall₂ (fun c t => ofBlock block c.2 c.1 = .ok t) (cs.zipIdx index) ts) :
    ss.map SharedConfig.sealView = ts.map SharedConfig.sealView := by
  induction bs generalizing cs ss ts index with
  | nil =>
    obtain rfl := List.map_eq_nil_iff.mp same.symm
    cases ran
    cases ran'
    rfl
  | cons b bs ih =>
    cases cs with
    | nil => cases same
    | cons c cs =>
      obtain ⟨heads, tails⟩ := List.cons.inj same
      rw [List.zipIdx_cons] at ran ran'
      obtain - | ⟨first, rest⟩ := ran
      obtain - | ⟨first', rest'⟩ := ran'
      have isSeal := areSeals b List.mem_cons_self
      have later := ih (fun other member => areSeals other (List.mem_cons_of_mem b member)) tails rest rest'
      rw [List.map_cons, List.map_cons, ofBlock_redacted isSeal heads first first', later]

theorem ofBlocks_redacted {block : String} {b c : Hcl.Body} {ss ts : List Seal}
    (isSeal : block ∈ blockNames) (same : b.redacted = c.redacted)
    (ran : ofBlocks b block = .ok ss) (ran' : ofBlocks c block = .ok ts) :
    ss.map SharedConfig.sealView = ts.map SharedConfig.sealView := by
  refine views_of_blocks (fun found member => ?_) ?_ (ofBlocks_ok ran) (ofBlocks_ok ran')
  · have named : found.name = block := by simpa using (List.mem_filter.mp member).2
    exact named ▸ isSeal
  · rw [← Hcl.Body.blocksNamed_redacted, ← Hcl.Body.blocksNamed_redacted, same]

/-- Of documents that are the same once redacted, the seals show the same. -/
theorem ofBody_redacted {b c : Hcl.Body} {ss ts : List Seal} (same : b.redacted = c.redacted)
    (ran : ofBody b = .ok ss) (ran' : ofBody c = .ok ts) :
    ss.map SharedConfig.sealView = ts.map SharedConfig.sealView := by
  obtain ⟨seals, atSeals, ran⟩ := Outcome.bind_ok ran
  obtain ⟨kmses, atKmses, ran⟩ := Outcome.bind_ok ran
  obtain ⟨seals', atSeals', ran'⟩ := Outcome.bind_ok ran'
  obtain ⟨kmses', atKmses', ran'⟩ := Outcome.bind_ok ran'
  cases ran
  cases ran'
  rw [List.map_append, List.map_append, ofBlocks_redacted (by decide) same atSeals atSeals',
    ofBlocks_redacted (by decide) same atKmses atKmses']

end Seal

namespace SharedConfig

/-- Documents that are the same once redacted are read as configurations that differ in their seals alone,
and there only in what is not shown. -/
theorem ofBody_redacted {b c : Hcl.Body} {left right : SharedConfig} (same : b.redacted = c.redacted)
    (ran : (ofBody b).result = .ok left) (ran' : (ofBody c).result = .ok right) :
    right = { left with seals := right.seals } ∧ left.seals.map sealView = right.seals.map sealView := by
  obtain ⟨top, read⟩ := ofBody_ok ran
  obtain ⟨top', read'⟩ := ofBody_ok ran'
  have others : ∀ {name}, name ∉ Seal.blockNames → b.blocksNamed name = c.blocksNamed name := by
    intro name other
    rw [← Hcl.Body.blocksNamed_redacted_of_notMem b other, same,
      Hcl.Body.blocksNamed_redacted_of_notMem c other]
  have attributes : b.attributes = c.attributes := by
    rw [← Hcl.Body.attributes_redacted, same, Hcl.Body.attributes_redacted]
  have blockNames : b.blocks.map (·.name) = c.blocks.map (·.name) := by
    rw [← Hcl.Body.blockNames_redacted, same, Hcl.Body.blockNames_redacted]
  have atTop := read.atTop
  rw [← Hcl.Body.withoutBlocks_redacted, same, Hcl.Body.withoutBlocks_redacted, read'.atTop] at atTop
  obtain rfl := Except.ok.inj atTop
  have listeners : left.listeners = right.listeners := by
    have atListeners := read.listeners
    rw [Listener.ofBody, others (by decide)] at atListeners
    exact Except.ok.inj (atListeners.symm.trans read'.listeners)
  have telemetry : left.telemetry = right.telemetry := by
    have atTelemetry := read.telemetry
    rw [Telemetry.ofBody, Hcl.Body.blocksUpTo, others (by decide)] at atTelemetry
    exact Except.ok.inj (atTelemetry.symm.trans read'.telemetry)
  have entropy : left.entropy = right.entropy := by
    have atEntropy := read.entropy
    rw [Entropy.ofBody, Hcl.Body.blocksUpTo, others (by decide)] at atEntropy
    exact Except.ok.inj (atEntropy.symm.trans read'.entropy)
  have mlock := Except.ok.inj (read.disableMlock.symm.trans read'.disableMlock)
  have duration :=
    Except.ok.inj (read.defaultMaxRequestDuration.symm.trans read'.defaultMaxRequestDuration)
  have found : left.foundKeys = right.foundKeys := by
    rw [read.foundKeys, read'.foundKeys, names, names, attributes, blockNames]
  have unused : left.unusedKeys = right.unusedKeys := by
    rw [read.unusedKeys, read'.unusedKeys, unusedNames, unusedNames, blockNames]
  refine ⟨?_, Seal.ofBody_redacted same read.seals read'.seals⟩
  rw [listeners, entropy, telemetry, mlock, duration, read.logLevel, read.logFormat, read.pidFile,
    read.clusterName, ← read'.logLevel, ← read'.logFormat, ← read'.pidFile, ← read'.clusterName, found,
    unused]

end SharedConfig

end ServiceKit
