import ServiceKit.Config.Listener
import ServiceKit.Proofs.Config.Stanza
import ServiceKit.Proofs.Value.Integer

namespace ServiceKit

namespace Listener

/-- A listener as its stanza says it, setting by setting. -/
structure ReadFrom (label : Option String) (s : Stanza) (l : Listener) : Prop where
  kind : readKind label s = .ok l.kind
  purpose : readPurpose s = .ok l.purpose
  address : l.address = s.string "address"
  clusterAddress : l.clusterAddress = s.string "cluster_address"
  maxRequestSize : readRequestSize s = .ok l.maxRequestSize
  maxRequestDuration : s.duration "max_request_duration" = .ok l.maxRequestDuration
  requireRequestHeader : s.flag "require_request_header" = .ok l.requireRequestHeader
  tls : readTls s = .ok l.tls
  timeouts : readTimeouts s = .ok l.timeouts
  proxy : readProxy s = .ok l.proxy
  forwarded : readForwarded s = .ok l.forwarded
  socket : l.socket = ⟨s.string "socket_mode", s.string "socket_user", s.string "socket_group"⟩
  unauthenticatedMetrics : (readTelemetry s).result = .ok l.unauthenticatedMetrics
  cors : readCors s = .ok l.cors
  customHeaders : readCustomHeaders s = .ok l.customHeaders
  randomPort : s.flag "random_port" = .ok l.randomPort
  located : l.kind = .unix → l.address.isSome

theorem ofStanza_ok {label : Option String} {s : Stanza} {l : Listener}
    (ran : (ofStanza label s).result = .ok l) : ReadFrom label s l := by
  unfold ofStanza at ran
  obtain ⟨kind, atKind, ran⟩ := Checked.bind_ok ran
  obtain ⟨purpose, atPurpose, ran⟩ := Checked.bind_ok ran
  obtain ⟨size, atSize, ran⟩ := Checked.bind_ok ran
  obtain ⟨duration, atDuration, ran⟩ := Checked.bind_ok ran
  obtain ⟨required, atRequired, ran⟩ := Checked.bind_ok ran
  obtain ⟨tls, atTls, ran⟩ := Checked.bind_ok ran
  obtain ⟨timeouts, atTimeouts, ran⟩ := Checked.bind_ok ran
  obtain ⟨proxy, atProxy, ran⟩ := Checked.bind_ok ran
  obtain ⟨forwarded, atForwarded, ran⟩ := Checked.bind_ok ran
  obtain ⟨metrics, atMetrics, ran⟩ := Checked.bind_ok ran
  obtain ⟨cors, atCors, ran⟩ := Checked.bind_ok ran
  obtain ⟨headers, atHeaders, ran⟩ := Checked.bind_ok ran
  obtain ⟨port, atPort, ran⟩ := Checked.bind_ok ran
  dsimp only at ran
  split_ifs at ran with lost
  · obtain ⟨none, failed, -⟩ := Checked.bind_ok ran
    cases failed
  · obtain ⟨_, -, ran⟩ := Checked.bind_ok ran
    cases ran
    refine ⟨atKind, atPurpose, rfl, rfl, atSize, atDuration, atRequired, atTls, atTimeouts, atProxy,
      atForwarded, rfl, atMetrics, atCors, atHeaders, atPort, ?_⟩
    intro unix
    by_contra none
    exact lost ⟨unix, by simpa using none⟩

theorem ofBlock_ok {index : Nat} {b : Hcl.Block} {l : Listener} (ran : (ofBlock index b).result = .ok l) :
    ∃ label s, b.label? ("listeners." ++ toString index) = .ok label ∧
      Stanza.ofBody ("listeners." ++ toString index) b.body = .ok s ∧ ReadFrom label s l := by
  unfold ofBlock at ran
  obtain ⟨label, atLabel, ran⟩ := Checked.bind_ok ran
  obtain ⟨s, atBody, ran⟩ := Checked.bind_ok ran
  exact ⟨label, s, atLabel, atBody, ofStanza_ok ran⟩

/-- Every listener of a document was read from one of its stanzas. -/
theorem readFrom_of_mem {body : Hcl.Body} {ls : List Listener} {l : Listener}
    (parsed : (ofBody body).result = .ok ls) (member : l ∈ ls) : ∃ label s, ReadFrom label s l := by
  obtain ⟨b, -, ran⟩ := Outcome.exists_of_mem_right (Checked.forEach_ok parsed) member
  obtain ⟨label, s, -, -, read⟩ := ofBlock_ok ran
  exact ⟨label, s, read⟩

/-- The settings of the forwarding header as a stanza says them. -/
theorem readForwarded_ok {s : Stanza} {f : ForwardedSettings} (ran : readForwarded s = .ok f) :
    s.cidrs "x_forwarded_for_authorized_addrs" = .ok f.authorized ∧ readHopSkips s = .ok f.hopSkips ∧
      (∃ notPresent, s.bool "x_forwarded_for_reject_not_present" = .ok notPresent ∧
        f.rejectNotPresent = notPresent.getD true) ∧
      ∃ notAuthorized, s.bool "x_forwarded_for_reject_not_authorized" = .ok notAuthorized ∧
        f.rejectNotAuthorized = notAuthorized.getD true := by
  unfold readForwarded at ran
  obtain ⟨authorized, atAuthorized, ran⟩ := Outcome.bind_ok ran
  obtain ⟨hopSkips, atHopSkips, ran⟩ := Outcome.bind_ok ran
  obtain ⟨notPresent, atNotPresent, ran⟩ := Outcome.bind_ok ran
  obtain ⟨notAuthorized, atNotAuthorized, ran⟩ := Outcome.bind_ok ran
  cases ran
  exact ⟨atAuthorized, atHopSkips, ⟨notPresent, atNotPresent, rfl⟩, notAuthorized, atNotAuthorized, rfl⟩

theorem readHopSkips_le {s : Stanza} {n : Nat} (ran : readHopSkips s = .ok n) : n ≤ Integer.i64Max := by
  unfold readHopSkips at ran
  obtain ⟨found, atKey, ran⟩ := Outcome.bind_ok ran
  cases found with
  | none =>
    cases ran
    exact Nat.zero_le _
  | some m =>
    obtain ⟨v, -, read⟩ := Stanza.read_some atKey
    have range := Value.readInt_range read
    dsimp only at ran
    split_ifs at ran with negative
    cases ran
    omega

/-- A document cannot ask for more hops than a signed integer holds, so one more is in range. -/
theorem hopSkips_lt_of_mem {body : Hcl.Body} {ls : List Listener} {l : Listener}
    (parsed : (ofBody body).result = .ok ls) (member : l ∈ ls) :
    l.forwarded.hopSkips < Integer.u64Max := by
  obtain ⟨label, s, read⟩ := readFrom_of_mem parsed member
  have bound := readHopSkips_le (readForwarded_ok read.forwarded).2.1
  exact Nat.lt_of_le_of_lt bound (by decide)

end Listener

end ServiceKit
