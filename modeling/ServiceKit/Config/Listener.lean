import ServiceKit.Config.Stanza

namespace ServiceKit

inductive ListenerKind where
  | tcp
  | unix
deriving DecidableEq, Repr

namespace ListenerKind

def text : ListenerKind → String
  | tcp => "tcp"
  | unix => "unix"

def ofText? (s : String) : Option ListenerKind :=
  match Text.toLower s with
  | "tcp" => some tcp
  | "unix" => some unix
  | _ => none

end ListenerKind

/-- Whose word a listener takes for the address of a proxied connection. -/
inductive ProxyBehavior where
  | useAlways
  | allowAuthorized
  | denyUnauthorized
deriving DecidableEq, Repr

namespace ProxyBehavior

def text : ProxyBehavior → String
  | useAlways => "use_always"
  | allowAuthorized => "allow_authorized"
  | denyUnauthorized => "deny_unauthorized"

def ofText? : String → Option ProxyBehavior
  | "use_always" => some useAlways
  | "allow_authorized" => some allowAuthorized
  | "deny_unauthorized" => some denyUnauthorized
  | _ => none

/-- Two behaviors make sense only with addresses. -/
def needsAddresses : ProxyBehavior → Bool
  | useAlways => false
  | allowAuthorized => true
  | denyUnauthorized => true

end ProxyBehavior

structure TlsSettings where
  disable : Bool := false
  certFile : Option String := none
  keyFile : Option String := none
  minVersion : Option String := none
  maxVersion : Option String := none
  cipherSuites : List String := []
  requireClientCert : Bool := false
  clientCaFile : Option String := none
  disableClientCerts : Bool := false
deriving DecidableEq, Repr

structure HttpTimeouts where
  read : Option Duration := none
  readHeader : Option Duration := none
  write : Option Duration := none
  idle : Option Duration := none
deriving DecidableEq, Repr

structure ProxySettings where
  behavior : Option ProxyBehavior := none
  authorized : List Cidr := []
deriving DecidableEq, Repr

/-- How the addresses that proxies report are used: whose reports count, how many proxies are passed
over, and what is refused. -/
structure ForwardedSettings where
  authorized : List Cidr := []
  hopSkips : Nat := 0
  rejectNotPresent : Bool := true
  rejectNotAuthorized : Bool := true
deriving DecidableEq, Repr

structure SocketSettings where
  mode : Option String := none
  user : Option String := none
  group : Option String := none
deriving DecidableEq, Repr

structure CorsSettings where
  enabled : Bool := false
  origins : List String := []
  headers : List String := []
deriving DecidableEq, Repr

/-- Header values by the status they are for and by name, both in order. -/
abbrev HeaderTable := List (String × List (String × String))

structure Listener where
  kind : ListenerKind
  purpose : List String := []
  address : Option String := none
  clusterAddress : Option String := none
  /-- Zero stands for the default; a negative number removes the limit. -/
  maxRequestSize : Int := 0
  maxRequestDuration : Option Duration := none
  requireRequestHeader : Bool := false
  tls : TlsSettings := {}
  timeouts : HttpTimeouts := {}
  proxy : ProxySettings := {}
  forwarded : ForwardedSettings := {}
  socket : SocketSettings := {}
  unauthenticatedMetrics : Bool := false
  cors : CorsSettings := {}
  customHeaders : HeaderTable := []
  randomPort : Bool := false
deriving DecidableEq, Repr

namespace Listener

def defaultMaxRequestSize : Nat := 32 * 1024 * 1024

def defaultMaxRequestDuration : Duration := .ofSecs 90

/-- The size limit of request bodies, if there is one. -/
def effectiveMaxRequestSize (l : Listener) : Option Nat :=
  if l.maxRequestSize = 0 then some defaultMaxRequestSize
  else if l.maxRequestSize < 0 then none
  else some l.maxRequestSize.toNat

def effectiveMaxRequestDuration (l : Listener) : Duration :=
  match l.maxRequestDuration with
  | some d => if d = .zero then defaultMaxRequestDuration else d
  | none => defaultMaxRequestDuration

def isTcp (l : Listener) : Bool :=
  l.kind == .tcp

open Stanza (Read)

def readPurpose (s : Stanza) : Read (List String) :=
  (s.strings "purpose").map fun ps => ps.map Text.toLower

/-- A size limit is an integer, or else a capacity. -/
def readRequestSize (s : Stanza) : Read Int :=
  match s.get? "max_request_size" with
  | none => .ok 0
  | some raw =>
    let whole := match raw with
      | .num n => n.toI64?
      | _ => none
    match whole with
    | some n => .ok n
    | none =>
      let text := Value.plainText raw
      match Integer.readI64 (Text.trim text) with
      | .ok n => .ok n
      | .error _ =>
        match Value.readCapacity raw with
        | .error fault => .error (s.invalid "max_request_size" (.requestSize (.invalid fault)))
        | .ok n =>
          if n ≤ Integer.i64Max then .ok n
          else .error (s.invalid "max_request_size" (.requestSizeTooLarge text))

def tlsVersions : List String := ["tls10", "tls11", "tls12", "tls13"]

def readTlsVersion (s : Stanza) (key : String) : Read (Option String) :=
  match s.lowercase key with
  | none => .ok none
  | some version =>
    if tlsVersions.contains version then .ok (some version)
    else .error (s.invalid key (.tlsVersion version))

def readTls (s : Stanza) : Read TlsSettings := do
  let disable ← s.flag "tls_disable"
  let minVersion ← readTlsVersion s "tls_min_version"
  let maxVersion ← readTlsVersion s "tls_max_version"
  let cipherSuites ← s.strings "tls_cipher_suites"
  let requireClientCert ← s.flag "tls_require_and_verify_client_cert"
  let disableClientCerts ← s.flag "tls_disable_client_certs"
  if requireClientCert && disableClientCerts then
    throw (s.invalid "tls_disable_client_certs" .clientCertConflict)
  return {
    disable, minVersion, maxVersion, cipherSuites, requireClientCert, disableClientCerts
    certFile := s.string "tls_cert_file"
    keyFile := s.string "tls_key_file"
    clientCaFile := s.string "tls_client_ca_file" }

def readTimeouts (s : Stanza) : Read HttpTimeouts := do
  let read ← s.duration "http_read_timeout"
  let readHeader ← s.duration "http_read_header_timeout"
  let write ← s.duration "http_write_timeout"
  let idle ← s.duration "http_idle_timeout"
  return { read, readHeader, write, idle }

def readProxyBehavior (s : Stanza) : Read (Option ProxyBehavior) :=
  match s.lowercase "proxy_protocol_behavior" with
  | none => .ok none
  | some text =>
    match ProxyBehavior.ofText? text with
    | some behavior => .ok (some behavior)
    | none => .error (s.invalid "proxy_protocol_behavior" (.proxyBehavior text))

def readProxy (s : Stanza) : Read ProxySettings := do
  let behavior ← readProxyBehavior s
  let authorized ← s.cidrs "proxy_protocol_authorized_addrs"
  if behavior.any (·.needsAddresses) && authorized.isEmpty then
    throw (s.invalid "proxy_protocol_authorized_addrs" .proxyWithoutAddresses)
  return { behavior, authorized }

def readHopSkips (s : Stanza) : Read Nat := do
  match ← s.int "x_forwarded_for_hop_skips" with
  | none => return 0
  | some n =>
    if n < 0 then throw (s.invalid "x_forwarded_for_hop_skips" (.negativeHopSkips n))
    else return n.toNat

def readForwarded (s : Stanza) : Read ForwardedSettings := do
  let authorized ← s.cidrs "x_forwarded_for_authorized_addrs"
  let hopSkips ← readHopSkips s
  let notPresent ← s.bool "x_forwarded_for_reject_not_present"
  let notAuthorized ← s.bool "x_forwarded_for_reject_not_authorized"
  return {
    authorized, hopSkips
    rejectNotPresent := notPresent.getD true
    rejectNotAuthorized := notAuthorized.getD true }

def readCors (s : Stanza) : Read CorsSettings := do
  let enabled ← s.flag "cors_enabled"
  let origins ← s.strings "cors_allowed_origins"
  let headers ← s.strings "cors_allowed_headers"
  if 1 < origins.length && origins.contains "*" then
    throw (s.invalid "cors_allowed_origins" .mixedOrigins)
  return { enabled, origins, headers }

/-- The headers for one status are an object, or a list of just one. -/
def headerFields? : Json → Option (List (String × Json))
  | .obj fields => some fields
  | .arr [.obj fields] => some fields
  | _ => none

/-- The values of a header that is given a list are joined. -/
def headerValue : Json → String
  | .arr values => "; ".intercalate (values.map Value.plainText)
  | v => Value.plainText v

def readHeaderTable (s : Stanza) : List (String × Json) → Read HeaderTable
  | [] => .ok []
  | (status, v) :: rest =>
    match headerFields? v with
    | none => .error (s.invalid "custom_response_headers" (.headerTable status v))
    | some fields => do
      let table ← readHeaderTable s rest
      return (status, fields.map fun f => (f.1, headerValue f.2)) :: table

def readCustomHeaders (s : Stanza) : Read HeaderTable :=
  match s.object "custom_response_headers" with
  | some fields => readHeaderTable s fields
  | none => .ok []

def telemetrySettings : List String := ["unauthenticated_metrics_access"]

def readTelemetry (s : Stanza) : Checked Bool :=
  match s.nested "telemetry" with
  | none => .pure false
  | some t => do
    let access ← t.flag "unauthenticated_metrics_access"
    t.warnUnknown telemetrySettings
    return access

/-- The keys that a listener stanza may hold. -/
def settings : List String :=
  ["type", "purpose", "address", "cluster_address", "max_request_size", "max_request_duration",
    "require_request_header", "tls_disable", "tls_cert_file", "tls_key_file", "tls_min_version",
    "tls_max_version", "tls_cipher_suites", "tls_require_and_verify_client_cert",
    "tls_client_ca_file", "tls_disable_client_certs", "http_read_timeout",
    "http_read_header_timeout", "http_write_timeout", "http_idle_timeout",
    "proxy_protocol_behavior", "proxy_protocol_authorized_addrs",
    "x_forwarded_for_authorized_addrs", "x_forwarded_for_hop_skips",
    "x_forwarded_for_reject_not_present", "x_forwarded_for_reject_not_authorized", "socket_mode",
    "socket_user", "socket_group", "telemetry", "cors_enabled", "cors_allowed_origins",
    "cors_allowed_headers", "custom_response_headers", "random_port"]

def readKind (label : Option String) (s : Stanza) : Read ListenerKind :=
  match label.or (s.lowercase "type") with
  | none => .error (s.invalid "type" .noListenerType)
  | some text =>
    match ListenerKind.ofText? text with
    | some kind => .ok kind
    | none => .error (s.invalid "type" (.listenerType text))

/-- Reads the settings in a fixed order, so that the first bad one is reported. -/
def ofStanza (label : Option String) (s : Stanza) : Checked Listener := do
  let kind ← readKind label s
  let purpose ← readPurpose s
  let maxRequestSize ← readRequestSize s
  let maxRequestDuration ← s.duration "max_request_duration"
  let requireRequestHeader ← s.flag "require_request_header"
  let tls ← readTls s
  let timeouts ← readTimeouts s
  let proxy ← readProxy s
  let forwarded ← readForwarded s
  let unauthenticatedMetrics ← readTelemetry s
  let cors ← readCors s
  let customHeaders ← readCustomHeaders s
  let randomPort ← s.flag "random_port"
  let address := s.string "address"
  if kind = .unix ∧ address.isNone then
    Checked.fail (s.invalid "address" .unixWithoutAddress)
  s.warnUnknown settings
  return {
    kind, purpose, address, maxRequestSize, maxRequestDuration, requireRequestHeader, tls
    timeouts, proxy, forwarded, unauthenticatedMetrics, cors, customHeaders, randomPort
    clusterAddress := s.string "cluster_address"
    socket := ⟨s.string "socket_mode", s.string "socket_user", s.string "socket_group"⟩ }

def ofBlock (index : Nat) (b : Hcl.Block) : Checked Listener := do
  let path := "listeners." ++ toString index
  let label ← b.label? path
  let s ← Stanza.ofBody path b.body
  ofStanza label s

/-- The listeners of a document, in order. -/
def ofBody (body : Hcl.Body) : Checked (List Listener) :=
  Checked.forEach (fun b => ofBlock b.2 b.1) (body.blocksNamed "listener").zipIdx

end Listener

end ServiceKit
