import ServiceKit.Config.Stanza

namespace ServiceKit

structure Telemetry where
  statsiteAddress : Option String := none
  statsdAddress : Option String := none
  disableHostname : Bool := false
  enableHostnameLabel : Bool := false
  metricsPrefix : Option String := none
  usageGaugePeriod : Option Duration := some (.ofSecs (10 * 60))
  maximumGaugeCardinality : Nat := 500
  prometheusRetentionTime : Option Duration := some (.ofSecs (24 * 60 * 60))
  dogstatsdAddress : Option String := none
  dogstatsdTags : List String := []
  filterDefault : Bool := true
  prefixFilter : List String := []
deriving DecidableEq, Repr

namespace Telemetry

def settings : List String :=
  ["statsite_address", "statsd_address", "disable_hostname", "enable_hostname_label",
    "metrics_prefix", "dogstatsd_addr", "dogstatsd_tags", "prefix_filter", "usage_gauge_period",
    "maximum_gauge_cardinality", "prometheus_retention_time", "filter_default"]

def prometheusEnabled (t : Telemetry) : Bool :=
  t.prometheusRetentionTime.any (· ≠ .zero)

/-- A filter entry starts with a plus to let names through or with a minus to hold them back. -/
def isFilterEntry (entry : String) : Bool :=
  match entry.toList with
  | '+' :: _ => true
  | '-' :: _ => true
  | _ => false

def readCardinality (s : Stanza) : Stanza.Read Nat := do
  match ← s.int "maximum_gauge_cardinality" with
  | none => return 500
  | some n =>
    if n < 0 then throw (s.invalid "maximum_gauge_cardinality" .negativeCardinality)
    else return n.toNat

def ofStanza (s : Stanza) : Stanza.Read Telemetry := do
  let disableHostname ← s.flag "disable_hostname"
  let enableHostnameLabel ← s.flag "enable_hostname_label"
  let dogstatsdTags ← s.strings "dogstatsd_tags"
  let prefixFilter ← s.strings "prefix_filter"
  let period ← s.duration "usage_gauge_period"
  let maximumGaugeCardinality ← readCardinality s
  let retention ← s.duration "prometheus_retention_time"
  let filterDefault ← s.bool "filter_default"
  match prefixFilter.find? (!isFilterEntry ·) with
  | some entry => throw (s.invalid "prefix_filter" (.filterEntry entry))
  | none =>
    let default : Telemetry := {}
    return {
      disableHostname, enableHostnameLabel, dogstatsdTags, prefixFilter, maximumGaugeCardinality
      statsiteAddress := s.string "statsite_address"
      statsdAddress := s.string "statsd_address"
      metricsPrefix := s.string "metrics_prefix"
      dogstatsdAddress := s.string "dogstatsd_addr"
      usageGaugePeriod := match period with
        | some d => if d = .zero then none else some d
        | none => default.usageGaugePeriod
      prometheusRetentionTime := retention.or default.prometheusRetentionTime
      filterDefault := filterDefault.getD default.filterDefault }

/-- Reads the attributes of the one telemetry block there may be; blocks inside it are passed
over. -/
def ofBody (body : Hcl.Body) : Checked (Option Telemetry) := do
  match ← body.blocksUpTo "telemetry" 1 with
  | [] => return none
  | b :: _ =>
    let s ← Stanza.ofBody "telemetry" b.body.withoutBlocks
    let t ← ofStanza s
    s.warnUnknown settings
    return some t

end Telemetry

end ServiceKit
