import ServiceKit.Config.Entropy
import ServiceKit.Config.Listener
import ServiceKit.Config.Seal
import ServiceKit.Config.Telemetry
import ServiceKit.Proofs.Outcome

namespace ServiceKit

/-! Whatever is read without a duration is read or refused, and does not crash. -/

open Outcome (Answers)

namespace Stanza
variable (s : Stanza) (key : String)

theorem ofBody_answers (path : String) (body : Hcl.Body) : Answers (ofBody path body) := by
  unfold ofBody
  cases Hcl.Body.fields? body with
  | none => exact .error _
  | some fields => exact .ok _

theorem read_answers {α : Type} (f : Json → Except ValueFault α) : Answers (s.read key f) := by
  unfold read
  cases s.get? key with
  | none => exact .ok _
  | some v =>
    dsimp only
    cases f v with
    | ok a => exact .ok _
    | error fault => exact .error _

theorem flag_answers : Answers (s.flag key) :=
  (s.read_answers key _).map _

theorem strings_answers : Answers (s.strings key) :=
  (s.read_answers key _).map _

theorem cidrs_answers : Answers (s.cidrs key) := by
  unfold cidrs
  cases s.get? key with
  | none => exact .ok _
  | some v => exact .mapError _ _

end Stanza

theorem Hcl.Body.blocksUpTo_answers (body : Hcl.Body) (name : String) (limit : Nat) :
    Answers (body.blocksUpTo name limit) := by
  unfold blocksUpTo
  dsimp only
  split_ifs
  · exact .ok _
  · exact .error _

theorem Hcl.Block.label?_answers (b : Hcl.Block) (path : String) : Answers (b.label? path) := by
  unfold label?
  split
  · exact .ok _
  · exact .ok _
  · exact .error _

open Stanza

namespace Listener
variable (s : Stanza)

theorem readKind_answers (label : Option String) : Answers (readKind label s) := by
  unfold readKind
  cases label.or (s.lowercase "type") with
  | none => exact .error _
  | some text =>
    dsimp only
    cases ListenerKind.ofText? text with
    | none => exact .error _
    | some kind => exact .ok _

theorem readPurpose_answers : Answers (readPurpose s) :=
  (s.strings_answers _).map _

theorem readRequestSize_answers : Answers (readRequestSize s) := by
  unfold readRequestSize
  cases s.get? "max_request_size" with
  | none => exact .ok 0
  | some raw =>
    dsimp only
    split
    · exact .ok _
    · split
      · exact .ok _
      · cases Value.readCapacity raw with
        | error fault => exact .error _
        | ok n =>
          dsimp only
          split_ifs
          · exact .ok _
          · exact .error _

theorem readTlsVersion_answers (key : String) : Answers (readTlsVersion s key) := by
  unfold readTlsVersion
  cases s.lowercase key with
  | none => exact .ok _
  | some version =>
    dsimp only
    split_ifs
    · exact .ok _
    · exact .error _

theorem readTls_answers : Answers (readTls s) := by
  unfold readTls
  refine (s.flag_answers _).bind fun disable => ?_
  refine (readTlsVersion_answers s _).bind fun minVersion => ?_
  refine (readTlsVersion_answers s _).bind fun maxVersion => ?_
  refine (s.strings_answers _).bind fun suites => ?_
  refine (s.flag_answers _).bind fun required => ?_
  refine (s.flag_answers _).bind fun disabled => ?_
  dsimp only
  split_ifs
  · exact .error _
  · exact .ok _

theorem readProxyBehavior_answers : Answers (readProxyBehavior s) := by
  unfold readProxyBehavior
  cases s.lowercase "proxy_protocol_behavior" with
  | none => exact .ok _
  | some text =>
    dsimp only
    cases ProxyBehavior.ofText? text with
    | none => exact .error _
    | some behavior => exact .ok _

theorem readProxy_answers : Answers (readProxy s) := by
  unfold readProxy
  refine (readProxyBehavior_answers s).bind fun behavior => ?_
  refine (s.cidrs_answers _).bind fun authorized => ?_
  dsimp only
  split_ifs
  · exact .error _
  · exact .ok _

theorem readHopSkips_answers : Answers (readHopSkips s) := by
  unfold readHopSkips
  refine (s.read_answers _ _).bind fun found => ?_
  cases found with
  | none => exact .ok _
  | some n =>
    dsimp only
    split_ifs
    · exact .error _
    · exact .ok _

theorem readForwarded_answers : Answers (readForwarded s) := by
  unfold readForwarded
  refine (s.cidrs_answers _).bind fun authorized => ?_
  refine (readHopSkips_answers s).bind fun hopSkips => ?_
  refine (s.read_answers _ _).bind fun notPresent => ?_
  exact (s.read_answers _ _).bind fun notAuthorized => .ok _

theorem readCors_answers : Answers (readCors s) := by
  unfold readCors
  refine (s.flag_answers _).bind fun enabled => ?_
  refine (s.strings_answers _).bind fun origins => ?_
  refine (s.strings_answers _).bind fun headers => ?_
  dsimp only
  split_ifs
  · exact .error _
  · exact .ok _

theorem readHeaderTable_answers (fields : List (String × Json)) : Answers (readHeaderTable s fields) := by
  induction fields with
  | nil => exact .ok _
  | cons field rest ih =>
    unfold readHeaderTable
    cases headerFields? field.2 with
    | none => exact .error _
    | some headers => exact ih.bind fun table => .ok _

theorem readCustomHeaders_answers : Answers (readCustomHeaders s) := by
  unfold readCustomHeaders
  cases s.object "custom_response_headers" with
  | none => exact .ok _
  | some fields => exact readHeaderTable_answers s fields

theorem readTelemetry_answers : Answers (readTelemetry s).result := by
  unfold readTelemetry
  cases s.nested "telemetry" with
  | none => exact .ok _
  | some t =>
    refine Checked.answers_bind (t.flag_answers _) fun access => ?_
    exact .ok _

end Listener

theorem Telemetry.readCardinality_answers (s : Stanza) : Answers (readCardinality s) := by
  unfold readCardinality
  refine (s.read_answers _ _).bind fun found => ?_
  cases found with
  | none => exact .ok _
  | some n =>
    dsimp only
    split_ifs
    · exact .error _
    · exact .ok _

theorem Seal.ofBlock_answers (block : String) (index : Nat) (b : Hcl.Block) : Answers (ofBlock block index b) := by
  unfold ofBlock
  refine (b.label?_answers _).bind fun label => ?_
  cases label with
  | none => exact .error _
  | some kind =>
    refine (ofBody_answers _ _).bind fun s => ?_
    refine (s.strings_answers _).bind fun purpose => ?_
    refine (s.flag_answers _).bind fun disabled => ?_
    exact (s.read_answers _ _).bind fun priority => .ok _

theorem Entropy.readMode_answers (s : Stanza) : Answers (readMode s) := by
  unfold readMode
  cases s.lowercase "mode" with
  | none => exact .error _
  | some text =>
    dsimp only
    cases EntropyMode.ofText? text with
    | none => exact .error _
    | some mode => exact .ok _

theorem Entropy.ofBody_answers (body : Hcl.Body) : Answers (ofBody body).result := by
  unfold ofBody
  refine Checked.answers_bind (body.blocksUpTo_answers _ _) fun blocks => ?_
  cases blocks with
  | nil => exact .ok _
  | cons b more =>
    refine Checked.answers_bind (b.label?_answers _) fun label => ?_
    dsimp only
    split_ifs
    · exact .error _
    · refine Checked.answers_bind (Stanza.ofBody_answers _ _) fun s => ?_
      exact Checked.answers_bind (readMode_answers s) fun mode => .ok _

end ServiceKit
