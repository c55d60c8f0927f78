import Failover.Journal.Line

/-!
# Events of the service

What the service reports about itself. A `ServiceEvent` becomes a log line like the events of the
library.
-/

namespace Failover

/-- A fact about the service that is logged. -/
inductive ServiceEvent where
  | starting (version : String)
  | configured (path : String) (maxRetries breakerThreshold : Nat)
  | metricsListening (address : String)
  | metricsFailed (address problem : String)
  | metricsAddressMalformed (address : String)
  | ready (endpoints : Nat)
  | listening (address : String)
  | signalled
  | complete
deriving DecidableEq

namespace ServiceEvent

/-- The severity. -/
def level : ServiceEvent → Level
  | metricsFailed .. | metricsAddressMalformed _ => .error
  | _ => .info

/-- The part of the program that reports the event. -/
def target : ServiceEvent → String
  | metricsListening _ | metricsFailed .. => "rpc_failover::observability::metrics"
  | signalled => "rpc_failover::lifecycle::signals"
  | _ => "rpc_failover"

/-- The event in words. -/
def text : ServiceEvent → String
  | starting _ => "rpc-failover starting"
  | configured .. => "Configuration loaded"
  | metricsListening _ => "Metrics exporter listening"
  | metricsFailed .. => "Failed to install metrics exporter"
  | metricsAddressMalformed _ => "Failed to parse metrics address"
  | ready _ => "Failover manager ready"
  | listening _ => "Status server listening"
  | signalled => "Shutdown signal received"
  | complete => "Shutdown complete"

/-- The fields in order. -/
def fields : ServiceEvent → List (String × Field)
  | starting version => [("version", .quoted version)]
  | configured path maxRetries breakerThreshold =>
    [("config", .plain path), ("max_retries", .count maxRetries),
      ("breaker_threshold", .count breakerThreshold)]
  | metricsListening address | listening address => [("address", .plain address)]
  | metricsFailed address problem => [("address", .plain address), ("error", .plain problem)]
  | metricsAddressMalformed address => [("metrics_address", .plain address)]
  | ready endpoints => [("endpoints", .count endpoints)]
  | signalled | complete => []

/-- The line of an event. -/
def line (e : ServiceEvent) : LogLine := ⟨e.level, e.target, e.text, e.fields⟩

end ServiceEvent

end Failover
