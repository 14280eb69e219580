import ServiceKit.Config.Entropy
import ServiceKit.Config.Listener
import ServiceKit.Config.Seal
import ServiceKit.Config.Telemetry
import ServiceKit.Proofs.Outcome

namespace ServiceKit

/-! What a stanza is read as does not depend on its place. The place is for errors alone, and these name
it, with the keys that lead from there to the fault. -/

/-- The name of what stands under some keys at a place. -/
def Stanza.below (place : String) (keys : List String) : String :=
  keys.foldl (fun path key => path ++ "." ++ key) place

open Stanza (below)

/-- What is read at two places: the same, or the same fault under the same keys of either place. -/
inductive Moved {α : Type} (p q : String) : Stanza.Read α → Stanza.Read α → Prop where
  | ok (a : α) : Moved p q (.ok a) (.ok a)
  | crash (c : Crash) : Moved p q (.error (.crash c)) (.error (.crash c))
  | error (cause : ConfigCause) (keys : List String) :
      Moved p q (.error (.error ⟨cause, some (below p keys)⟩)) (.error (.error ⟨cause, some (below q keys)⟩))

variable {α β : Type} {p q : String} {fields : List (String × Json)}

namespace Moved
variable {x y : Stanza.Read α}

theorem agree (moved : Moved p q x y) : Outcome.Agree x y := by
  cases moved <;> rfl

theorem of_ok {a : α} (moved : Moved p q (.ok a) y) : y = .ok a := by
  cases moved
  rfl

theorem of_error {e : ConfigError} (moved : Moved p q (.error (.error e)) y) :
    ∃ keys, e.context = some (below p keys) ∧ y = .error (.error ⟨e.cause, some (below q keys)⟩) := by
  cases moved with
  | error cause keys => exact ⟨keys, rfl, rfl⟩

theorem bind {f g : α → Stanza.Read β} (first : Moved p q x y) (rest : ∀ a, Moved p q (f a) (g a)) :
    Moved p q (x >>= f) (y >>= g) := by
  cases first with
  | ok a => exact rest a
  | crash c => exact .crash c
  | error cause keys => exact .error cause keys

theorem map (f : α → β) (moved : Moved p q x y) : Moved p q (x.map f) (y.map f) := by
  cases moved with
  | ok a => exact .ok (f a)
  | crash c => exact .crash c
  | error cause keys => exact .error cause keys

/-- What stands under a key of a place is below the place. -/
theorem under (key : String) (moved : Moved (p ++ "." ++ key) (q ++ "." ++ key) x y) : Moved p q x y := by
  cases moved with
  | ok a => exact .ok a
  | crash c => exact .crash c
  | error cause keys => exact .error cause (key :: keys)

theorem checked {x y : Checked α} {f g : α → Checked β} (first : Moved p q x.result y.result)
    (rest : ∀ a, Moved p q (f a).result (g a).result) : Moved p q (x >>= f).result (y >>= g).result := by
  rw [Checked.result_bind, Checked.result_bind]
  exact first.bind rest

end Moved

namespace Stanza

theorem get?_place (p q key : String) : get? ⟨p, fields⟩ key = get? ⟨q, fields⟩ key :=
  rfl

theorem string_place (p q key : String) : string ⟨p, fields⟩ key = string ⟨q, fields⟩ key :=
  rfl

theorem lowercase_place (p q key : String) : lowercase ⟨p, fields⟩ key = lowercase ⟨q, fields⟩ key :=
  rfl

theorem object_place (p q key : String) : object ⟨p, fields⟩ key = object ⟨q, fields⟩ key :=
  rfl

/-- A body is decoded at any place, or at none. -/
theorem ofBody_moved {f g : Stanza → Read β} (body : Hcl.Body)
    (rest : ∀ fields, Moved p q (f ⟨p, fields⟩) (g ⟨q, fields⟩)) :
    Moved p q (ofBody p body >>= f) (ofBody q body >>= g) := by
  unfold ofBody
  cases Hcl.Body.fields? body with
  | none => exact .error _ []
  | some fields => exact rest fields

theorem read_moved (key : String) (f : Json → Except ValueFault α) :
    Moved p q (read ⟨p, fields⟩ key f) (read ⟨q, fields⟩ key f) := by
  unfold read
  rw [get?_place p q]
  cases get? ⟨q, fields⟩ key with
  | none => exact .ok none
  | some v =>
    dsimp only
    cases f v with
    | ok a => exact .ok (some a)
    | error fault => exact .error _ [key]

theorem flag_moved (key : String) : Moved p q (flag ⟨p, fields⟩ key) (flag ⟨q, fields⟩ key) :=
  (read_moved key Value.readBool).map _

theorem strings_moved (key : String) : Moved p q (strings ⟨p, fields⟩ key) (strings ⟨q, fields⟩ key) :=
  (read_moved key Value.readStrings).map _

theorem duration_moved (key : String) : Moved p q (duration ⟨p, fields⟩ key) (duration ⟨q, fields⟩ key) := by
  unfold duration
  rw [get?_place p q]
  cases get? ⟨q, fields⟩ key with
  | none => exact .ok none
  | some v =>
    dsimp only
    cases Value.readDuration v with
    | ok d => exact .ok (some d)
    | error stop =>
      cases stop with
      | crash c => exact .crash c
      | error fault => exact .error _ [key]

theorem cidrs_moved (key : String) : Moved p q (cidrs ⟨p, fields⟩ key) (cidrs ⟨q, fields⟩ key) := by
  unfold cidrs
  rw [get?_place p q]
  cases get? ⟨q, fields⟩ key with
  | none => exact .ok []
  | some v =>
    dsimp only
    cases Value.readCidrs v with
    | ok nets => exact .ok nets
    | error e => exact .error _ [key]

end Stanza

theorem Moved.body {f g : Stanza → Checked β} (body : Hcl.Body)
    (rest : ∀ fields, Moved p q (f ⟨p, fields⟩).result (g ⟨q, fields⟩).result) :
    Moved p q (Stanza.ofBody p body >>= f : Checked β).result (Stanza.ofBody q body >>= g : Checked β).result := by
  rw [Checked.result_bind, Checked.result_bind]
  exact Stanza.ofBody_moved body rest

open Stanza (ofBody_moved read_moved flag_moved strings_moved duration_moved cidrs_moved)

theorem Hcl.Block.label?_moved (b : Hcl.Block) : Moved p q (b.label? p) (b.label? q) := by
  unfold label?
  split
  · exact .ok none
  · exact .ok _
  · exact .error _ []

namespace Seal

theorem ofBlock_moved (block : String) (i j : Nat) (b : Hcl.Block) :
    Moved (block ++ "." ++ toString i) (block ++ "." ++ toString j) (ofBlock block i b) (ofBlock block j b) := by
  unfold ofBlock
  refine b.label?_moved.bind fun label => ?_
  cases label with
  | none => exact .error _ []
  | some kind =>
    refine ofBody_moved b.body fun fields => ?_
    exact (strings_moved _).bind fun purpose => (flag_moved _).bind fun disabled =>
      (read_moved _ _).bind fun priority => .ok _

theorem ofBlock_agree (block : String) (i j : Nat) (b : Hcl.Block) :
    Outcome.Agree (ofBlock block i b) (ofBlock block j b) :=
  (ofBlock_moved block i j b).agree

end Seal

namespace Listener

theorem readKind_moved (label : Option String) :
    Moved p q (readKind label ⟨p, fields⟩) (readKind label ⟨q, fields⟩) := by
  unfold readKind
  rw [Stanza.lowercase_place p q]
  cases label.or (Stanza.lowercase ⟨q, fields⟩ "type") with
  | none => exact .error _ ["type"]
  | some text =>
    dsimp only
    cases ListenerKind.ofText? text with
    | none => exact .error _ ["type"]
    | some kind => exact .ok kind

theorem readRequestSize_moved :
    Moved p q (readRequestSize ⟨p, fields⟩) (readRequestSize ⟨q, fields⟩) := by
  unfold readRequestSize
  rw [Stanza.get?_place p q]
  cases Stanza.get? ⟨q, fields⟩ "max_request_size" with
  | none => exact .ok 0
  | some raw =>
    dsimp only
    split
    · exact .ok _
    · split
      · exact .ok _
      · cases Value.readCapacity raw with
        | error fault => exact .error _ ["max_request_size"]
        | ok n =>
          dsimp only
          split_ifs
          · exact .ok _
          · exact .error _ ["max_request_size"]

theorem readTlsVersion_moved (key : String) :
    Moved p q (readTlsVersion ⟨p, fields⟩ key) (readTlsVersion ⟨q, fields⟩ key) := by
  unfold readTlsVersion
  rw [Stanza.lowercase_place p q]
  cases Stanza.lowercase ⟨q, fields⟩ key with
  | none => exact .ok none
  | some version =>
    dsimp only
    split_ifs
    · exact .ok (some version)
    · exact .error _ [key]

theorem readTls_moved : Moved p q (readTls ⟨p, fields⟩) (readTls ⟨q, fields⟩) := by
  unfold readTls
  refine (flag_moved _).bind fun disable => (readTlsVersion_moved _).bind fun minVersion =>
    (readTlsVersion_moved _).bind fun maxVersion => (strings_moved _).bind fun suites =>
    (flag_moved _).bind fun required => (flag_moved _).bind fun disabled => ?_
  dsimp only
  split_ifs
  · exact .error _ ["tls_disable_client_certs"]
  · exact .ok _

theorem readTimeouts_moved : Moved p q (readTimeouts ⟨p, fields⟩) (readTimeouts ⟨q, fields⟩) := by
  unfold readTimeouts
  exact (duration_moved _).bind fun read => (duration_moved _).bind fun readHeader =>
    (duration_moved _).bind fun write => (duration_moved _).bind fun idle => .ok _

theorem readProxyBehavior_moved :
    Moved p q (readProxyBehavior ⟨p, fields⟩) (readProxyBehavior ⟨q, fields⟩) := by
  unfold readProxyBehavior
  rw [Stanza.lowercase_place p q]
  cases Stanza.lowercase ⟨q, fields⟩ "proxy_protocol_behavior" with
  | none => exact .ok none
  | some text =>
    dsimp only
    cases ProxyBehavior.ofText? text with
    | none => exact .error _ ["proxy_protocol_behavior"]
    | some behavior => exact .ok (some behavior)

theorem readProxy_moved : Moved p q (readProxy ⟨p, fields⟩) (readProxy ⟨q, fields⟩) := by
  unfold readProxy
  refine readProxyBehavior_moved.bind fun behavior => (cidrs_moved _).bind fun authorized => ?_
  dsimp only
  split_ifs
  · exact .error _ ["proxy_protocol_authorized_addrs"]
  · exact .ok _

theorem readHopSkips_moved : Moved p q (readHopSkips ⟨p, fields⟩) (readHopSkips ⟨q, fields⟩) := by
  unfold readHopSkips
  refine (read_moved _ _).bind fun found => ?_
  cases found with
  | none => exact .ok 0
  | some n =>
    dsimp only
    split_ifs
    · exact .error _ ["x_forwarded_for_hop_skips"]
    · exact .ok _

theorem readForwarded_moved : Moved p q (readForwarded ⟨p, fields⟩) (readForwarded ⟨q, fields⟩) := by
  unfold readForwarded
  exact (cidrs_moved _).bind fun authorized => readHopSkips_moved.bind fun hopSkips =>
    (read_moved _ _).bind fun notPresent => (read_moved _ _).bind fun notAuthorized => .ok _

theorem readCors_moved : Moved p q (readCors ⟨p, fields⟩) (readCors ⟨q, fields⟩) := by
  unfold readCors
  refine (flag_moved _).bind fun enabled => (strings_moved _).bind fun origins =>
    (strings_moved _).bind fun headers => ?_
  dsimp only
  split_ifs
  · exact .error _ ["cors_allowed_origins"]
  · exact .ok _

theorem readHeaderTable_moved (rows : List (String × Json)) :
    Moved p q (readHeaderTable ⟨p, fields⟩ rows) (readHeaderTable ⟨q, fields⟩ rows) := by
  induction rows with
  | nil => exact .ok []
  | cons row rest ih =>
    unfold readHeaderTable
    cases headerFields? row.2 with
    | none => exact .error _ ["custom_response_headers"]
    | some headers => exact ih.bind fun table => .ok _

theorem readCustomHeaders_moved :
    Moved p q (readCustomHeaders ⟨p, fields⟩) (readCustomHeaders ⟨q, fields⟩) := by
  unfold readCustomHeaders
  rw [Stanza.object_place p q]
  cases Stanza.object ⟨q, fields⟩ "custom_response_headers" with
  | none => exact .ok []
  | some rows => exact readHeaderTable_moved rows

theorem readTelemetry_moved :
    Moved p q (readTelemetry ⟨p, fields⟩).result (readTelemetry ⟨q, fields⟩).result := by
  unfold readTelemetry Stanza.nested
  rw [Stanza.object_place p q]
  cases Stanza.object ⟨q, fields⟩ "telemetry" with
  | none => exact .ok false
  | some inner =>
    refine Moved.under "telemetry" ?_
    exact Moved.checked (flag_moved _) fun access => .ok access

theorem ofStanza_moved (label : Option String) :
    Moved p q (ofStanza label ⟨p, fields⟩).result (ofStanza label ⟨q, fields⟩).result := by
  unfold ofStanza
  refine Moved.checked (readKind_moved label) fun kind => ?_
  refine Moved.checked ((strings_moved _).map _) fun purpose => ?_
  refine Moved.checked readRequestSize_moved fun size => ?_
  refine Moved.checked (duration_moved _) fun duration => ?_
  refine Moved.checked (flag_moved _) fun required => ?_
  refine Moved.checked readTls_moved fun tls => ?_
  refine Moved.checked readTimeouts_moved fun timeouts => ?_
  refine Moved.checked readProxy_moved fun proxy => ?_
  refine Moved.checked readForwarded_moved fun forwarded => ?_
  refine Moved.checked readTelemetry_moved fun metrics => ?_
  refine Moved.checked readCors_moved fun cors => ?_
  refine Moved.checked readCustomHeaders_moved fun headers => ?_
  refine Moved.checked (flag_moved _) fun port => ?_
  dsimp only
  rw [Stanza.string_place p q]
  split_ifs
  · exact .error _ ["address"]
  · exact .ok _

theorem ofBlock_moved (i j : Nat) (b : Hcl.Block) :
    Moved ("listeners." ++ toString i) ("listeners." ++ toString j)
      (ofBlock i b).result (ofBlock j b).result := by
  unfold ofBlock
  exact Moved.checked b.label?_moved fun label => Moved.body b.body fun fields => ofStanza_moved label

theorem ofBlock_agree (i j : Nat) (b : Hcl.Block) :
    Outcome.Agree (ofBlock i b).result (ofBlock j b).result :=
  (ofBlock_moved i j b).agree

end Listener

namespace Telemetry

theorem readCardinality_moved : Moved p q (readCardinality ⟨p, fields⟩) (readCardinality ⟨q, fields⟩) := by
  unfold readCardinality
  refine (read_moved _ _).bind fun found => ?_
  cases found with
  | none => exact .ok 500
  | some n =>
    dsimp only
    split_ifs
    · exact .error _ ["maximum_gauge_cardinality"]
    · exact .ok _

theorem ofStanza_moved : Moved p q (ofStanza ⟨p, fields⟩) (ofStanza ⟨q, fields⟩) := by
  unfold ofStanza
  refine (flag_moved _).bind fun disabled => (flag_moved _).bind fun enabled =>
    (strings_moved _).bind fun tags => (strings_moved _).bind fun prefixes =>
    (duration_moved _).bind fun period => readCardinality_moved.bind fun cardinality =>
    (duration_moved _).bind fun retention => (read_moved _ _).bind fun default => ?_
  cases prefixes.find? (!isFilterEntry ·) with
  | some entry => exact .error _ ["prefix_filter"]
  | none => exact .ok _

end Telemetry

theorem Entropy.readMode_moved : Moved p q (readMode ⟨p, fields⟩) (readMode ⟨q, fields⟩) := by
  unfold readMode
  rw [Stanza.lowercase_place p q]
  cases Stanza.lowercase ⟨q, fields⟩ "mode" with
  | none => exact .error _ ["mode"]
  | some text =>
    dsimp only
    cases EntropyMode.ofText? text with
    | none => exact .error _ ["mode"]
    | some mode => exact .ok mode

end ServiceKit
