import ServiceKit.Config.Shared

namespace ServiceKit

/-- A duration as seconds, with a fraction only if there is one. -/
def Duration.document (d : Duration) : Json :=
  if d.nanos = 0 then Json.ofNat d.secs else .num (.float d.toSeconds)

namespace Listener

def headersDocument (table : HeaderTable) : Json :=
  Json.ofFields (table.map fun row =>
    (row.1, Json.ofFields (row.2.map fun h => (h.1, .str h.2))))

/-- All settings of a listener under their names. -/
def document (l : Listener) : Json :=
  let text := Json.ofOption Json.str
  let duration := Json.ofOption Duration.document
  let cidrs (nets : List Cidr) := Json.strings (nets.map Cidr.render)
  Json.ofFields [
    ("type", .str l.kind.text),
    ("purpose", Json.strings l.purpose),
    ("address", text l.address),
    ("cluster_address", text l.clusterAddress),
    ("max_request_size", Json.ofInt l.maxRequestSize),
    ("max_request_duration", duration l.maxRequestDuration),
    ("require_request_header", .bool l.requireRequestHeader),
    ("tls_disable", .bool l.tls.disable),
    ("tls_cert_file", text l.tls.certFile),
    ("tls_key_file", text l.tls.keyFile),
    ("tls_min_version", text l.tls.minVersion),
    ("tls_max_version", text l.tls.maxVersion),
    ("tls_cipher_suites", Json.strings l.tls.cipherSuites),
    ("tls_require_and_verify_client_cert", .bool l.tls.requireClientCert),
    ("tls_client_ca_file", text l.tls.clientCaFile),
    ("tls_disable_client_certs", .bool l.tls.disableClientCerts),
    ("http_read_timeout", duration l.timeouts.read),
    ("http_read_header_timeout", duration l.timeouts.readHeader),
    ("http_write_timeout", duration l.timeouts.write),
    ("http_idle_timeout", duration l.timeouts.idle),
    ("proxy_protocol_behavior", Json.ofOption (Json.str ·.text) l.proxy.behavior),
    ("proxy_protocol_authorized_addrs", cidrs l.proxy.authorized),
    ("x_forwarded_for_authorized_addrs", cidrs l.forwarded.authorized),
    ("x_forwarded_for_hop_skips", Json.ofNat l.forwarded.hopSkips),
    ("x_forwarded_for_reject_not_present", .bool l.forwarded.rejectNotPresent),
    ("x_forwarded_for_reject_not_authorized", .bool l.forwarded.rejectNotAuthorized),
    ("socket_mode", text l.socket.mode),
    ("socket_user", text l.socket.user),
    ("socket_group", text l.socket.group),
    ("telemetry",
      Json.ofFields [("unauthenticated_metrics_access", .bool l.unauthenticatedMetrics)]),
    ("cors_enabled", .bool l.cors.enabled),
    ("cors_allowed_origins", Json.strings l.cors.origins),
    ("cors_allowed_headers", Json.strings l.cors.headers),
    ("custom_response_headers", headersDocument l.customHeaders),
    ("random_port", .bool l.randomPort)]

end Listener

def Telemetry.document (t : Telemetry) : Json :=
  let text := Json.ofOption Json.str
  let duration := Json.ofOption Duration.document
  Json.ofFields [
    ("statsite_address", text t.statsiteAddress),
    ("statsd_address", text t.statsdAddress),
    ("disable_hostname", .bool t.disableHostname),
    ("enable_hostname_label", .bool t.enableHostnameLabel),
    ("metrics_prefix", text t.metricsPrefix),
    ("usage_gauge_period", duration t.usageGaugePeriod),
    ("maximum_gauge_cardinality", Json.ofNat t.maximumGaugeCardinality),
    ("prometheus_retention_time", duration t.prometheusRetentionTime),
    ("dogstatsd_addr", text t.dogstatsdAddress),
    ("dogstatsd_tags", Json.strings t.dogstatsdTags),
    ("filter_default", .bool t.filterDefault),
    ("prefix_filter", Json.strings t.prefixFilter)]

def Entropy.document (e : Entropy) : Json :=
  Json.ofFields [
    ("mode", .str e.mode.text),
    ("seal_name", Json.ofOption Json.str e.sealName)]

namespace SharedConfig

def listenerView (l : Listener) : Json :=
  Json.ofFields [("type", .str l.kind.text), ("config", l.document)]

def sealView (s : Seal) : Json :=
  Json.ofFields [
    ("type", .str s.kind),
    ("purpose", Json.strings s.purpose),
    ("disabled", .bool s.disabled)]

/-- The configuration as it may be shown to anyone: of a seal nothing but its kind, its purposes and
whether it is disabled. -/
def sanitized (c : SharedConfig) : Json :=
  let text := Json.ofOption Json.str
  let seconds (d : Duration) : Json := .num (.float d.toSeconds)
  let telemetry := match c.telemetry with
    | some t => [("telemetry", t.document)]
    | none => []
  let entropy := match c.entropy with
    | some e => [("entropy", e.document)]
    | none => []
  Json.ofFields ([
    ("disable_mlock", .bool c.disableMlock),
    ("default_max_request_duration", Json.ofOption seconds c.defaultMaxRequestDuration),
    ("log_level", text c.logLevel),
    ("log_format", text c.logFormat),
    ("pid_file", text c.pidFile),
    ("cluster_name", text c.clusterName),
    ("listeners", .arr (c.listeners.map listenerView)),
    ("seals", .arr (c.seals.map sealView))] ++ telemetry ++ entropy)

end SharedConfig

end ServiceKit
