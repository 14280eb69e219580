import ServiceKit.Config.Shared
import ServiceKit.Proofs.Json.Fields
import ServiceKit.Proofs.Outcome

namespace ServiceKit

namespace Stanza
variable {s t : Stanza} {keys : List String} {key : String}

/-- Two stanzas of one name that have the same under some keys. -/
structure SameOn (keys : List String) (s t : Stanza) : Prop where
  path : s.path = t.path
  get? : ∀ key ∈ keys, s.get? key = t.get? key

namespace SameOn

theorem keyPath (same : SameOn keys s t) (key : String) : s.keyPath key = t.keyPath key := by
  rw [Stanza.keyPath, Stanza.keyPath, same.path]

theorem invalid (same : SameOn keys s t) (key : String) (fault : ConfigFault) :
    s.invalid key fault = t.invalid key fault := by
  rw [Stanza.invalid, Stanza.invalid, same.keyPath]

theorem valueError (same : SameOn keys s t) (key : String) (e : ValueError) :
    s.valueError key e = t.valueError key e := by
  rw [Stanza.valueError, Stanza.valueError, same.keyPath]

theorem read {α : Type} (same : SameOn keys s t) (isKey : key ∈ keys) (f : Json → Except ValueFault α) :
    s.read key f = t.read key f := by
  unfold Stanza.read
  simp only [same.get? key isKey, same.valueError]

theorem string (same : SameOn keys s t) (isKey : key ∈ keys) : s.string key = t.string key := by
  rw [Stanza.string, Stanza.string, same.get? key isKey]

theorem lowercase (same : SameOn keys s t) (isKey : key ∈ keys) : s.lowercase key = t.lowercase key := by
  rw [Stanza.lowercase, Stanza.lowercase, same.string isKey]

theorem flag (same : SameOn keys s t) (isKey : key ∈ keys) : s.flag key = t.flag key :=
  congrArg _ (same.read isKey Value.readBool)

theorem strings (same : SameOn keys s t) (isKey : key ∈ keys) : s.strings key = t.strings key :=
  congrArg _ (same.read isKey Value.readStrings)

theorem duration (same : SameOn keys s t) (isKey : key ∈ keys) : s.duration key = t.duration key := by
  unfold Stanza.duration
  simp only [same.get? key isKey, same.valueError]

theorem cidrs (same : SameOn keys s t) (isKey : key ∈ keys) : s.cidrs key = t.cidrs key := by
  unfold Stanza.cidrs
  simp only [same.get? key isKey, same.valueError]

theorem object (same : SameOn keys s t) (isKey : key ∈ keys) : s.object key = t.object key := by
  unfold Stanza.object
  rw [same.get? key isKey]

end SameOn

/-- A stanza without a key. -/
def without (s : Stanza) (key : String) : Stanza :=
  ⟨s.path, s.fields.filter fun f => f.1 ≠ key⟩

/-- Of the keys in a list another one can be left out. -/
theorem sameOn_without (s : Stanza) (unknown : key ∉ keys) : SameOn keys (s.without key) s where
  path := rfl
  get? name isKey := by
    unfold Stanza.get? without
    rw [Json.lookup_filter_ne (ne_of_mem_of_not_mem isKey unknown)]

end Stanza

open Stanza (SameOn)

variable {s t : Stanza}

/-! ### Stanzas are read for their settings alone -/

theorem Telemetry.ofStanza_sameOn (same : SameOn settings s t) : ofStanza s = ofStanza t := by
  unfold ofStanza readCardinality Stanza.bool Stanza.int
  simp (disch := decide) only [same.flag, same.strings, same.read, same.string, same.duration, same.invalid]

theorem Entropy.readMode_sameOn (same : SameOn settings s t) : readMode s = readMode t := by
  unfold readMode
  simp (disch := decide) only [same.lowercase, same.invalid]

namespace Listener

theorem readKind_sameOn (same : SameOn settings s t) (label : Option String) :
    readKind label s = readKind label t := by
  unfold readKind
  simp (disch := decide) only [same.lowercase, same.invalid]

theorem readPurpose_sameOn (same : SameOn settings s t) : readPurpose s = readPurpose t := by
  rw [readPurpose, readPurpose, same.strings (by decide)]

theorem readRequestSize_sameOn (same : SameOn settings s t) : readRequestSize s = readRequestSize t := by
  unfold readRequestSize
  simp (disch := decide) only [same.get?, same.invalid]

theorem readTls_sameOn (same : SameOn settings s t) : readTls s = readTls t := by
  unfold readTls readTlsVersion
  simp (disch := decide) only [same.flag, same.strings, same.string, same.lowercase, same.invalid]

theorem readTimeouts_sameOn (same : SameOn settings s t) : readTimeouts s = readTimeouts t := by
  unfold readTimeouts
  simp (disch := decide) only [same.duration]

theorem readProxy_sameOn (same : SameOn settings s t) : readProxy s = readProxy t := by
  unfold readProxy readProxyBehavior
  simp (disch := decide) only [same.cidrs, same.lowercase, same.invalid]

theorem readForwarded_sameOn (same : SameOn settings s t) : readForwarded s = readForwarded t := by
  unfold readForwarded readHopSkips Stanza.bool Stanza.int
  simp (disch := decide) only [same.cidrs, same.read, same.invalid]

theorem readCors_sameOn (same : SameOn settings s t) : readCors s = readCors t := by
  unfold readCors
  simp (disch := decide) only [same.flag, same.strings, same.invalid]

theorem readHeaderTable_sameOn (same : SameOn settings s t) (rows : List (String × Json)) :
    readHeaderTable s rows = readHeaderTable t rows := by
  induction rows with
  | nil => rfl
  | cons row rest ih =>
    unfold readHeaderTable
    rw [ih, same.invalid]

theorem readCustomHeaders_sameOn (same : SameOn settings s t) : readCustomHeaders s = readCustomHeaders t := by
  unfold readCustomHeaders
  rw [same.object (by decide)]
  cases t.object "custom_response_headers" with
  | none => rfl
  | some fields => exact readHeaderTable_sameOn same fields

theorem readTelemetry_sameOn (same : SameOn settings s t) : readTelemetry s = readTelemetry t := by
  unfold readTelemetry Stanza.nested
  rw [same.object (by decide), same.keyPath]

/-- What is read is the same, though the warnings need not be. -/
theorem ofStanza_sameOn (same : SameOn settings s t) (label : Option String) :
    (ofStanza label s).result = (ofStanza label t).result := by
  have unwarned : ∀ u : Stanza, (u.warnUnknown settings).result = .ok () := fun _ => rfl
  unfold ofStanza
  simp (disch := decide) only [readKind_sameOn same, readPurpose_sameOn same, readRequestSize_sameOn same,
    readTls_sameOn same, readTimeouts_sameOn same, readProxy_sameOn same, readForwarded_sameOn same,
    readTelemetry_sameOn same, readCors_sameOn same, readCustomHeaders_sameOn same, same.duration, same.flag,
    same.string, same.invalid, Checked.result_bind, apply_ite Checked.result, unwarned]

end Listener

end ServiceKit
