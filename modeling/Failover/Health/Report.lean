import Failover.Health.Record
import Failover.Json.Value

/-!
# Status reports

A report shows every endpoint in registry order at one moment.
-/

namespace Failover

/-- One endpoint as a report shows it. -/
structure EndpointStatus where
  name : String
  url : String
  priority : Int
  status : HealthStatus
  lastSuccess : Option Timestamp
  lastFailure : Option Timestamp
  consecutiveFailures : Nat
  totalRequests : Nat
  successfulRequests : Nat
  successRate : Float
  avgLatencyMs : Float
  circuitOpen : Bool
deriving DecidableEq, Inhabited

/-- Every endpoint at one moment. -/
structure StatusReport where
  endpoints : List EndpointStatus
deriving DecidableEq, Inhabited

namespace EndpointStatus

/-- Whether a call would try the endpoint even if it were not the last one. -/
def isUsable (e : EndpointStatus) : Bool := !e.circuitOpen && e.status ≠ .unhealthy

/-- A time as JSON, null if there is none. -/
def timeJson : Option Timestamp → Json
  | none => .null
  | some t => .string (t.toText .letter)

/-- The entry as JSON. -/
def toJson (e : EndpointStatus) : Json :=
  Json.ofMembers
    [("name", .string e.name),
      ("url", .string e.url),
      ("priority", .int e.priority),
      ("status", .string e.status.label),
      ("last_success", timeJson e.lastSuccess),
      ("last_failure", timeJson e.lastFailure),
      ("consecutive_failures", .int e.consecutiveFailures),
      ("total_requests", .int e.totalRequests),
      ("successful_requests", .int e.successfulRequests),
      ("success_rate", .float e.successRate),
      ("avg_latency_ms", .float e.avgLatencyMs),
      ("circuit_open", .bool e.circuitOpen)]

end EndpointStatus

namespace StatusReport

/-- The number of usable endpoints. -/
def usableCount (r : StatusReport) : Nat := r.endpoints.countP EndpointStatus.isUsable

/-- The number of healthy endpoints. -/
def healthyCount (r : StatusReport) : Nat := r.endpoints.countP fun e => e.status = .healthy

/-- The first entry of a URL. -/
def find? (r : StatusReport) (url : String) : Option EndpointStatus :=
  r.endpoints.find? fun e => e.url = url

/-- The report as JSON. -/
def toJson (r : StatusReport) : Json :=
  Json.ofMembers [("endpoints", .array (r.endpoints.map EndpointStatus.toJson))]

end StatusReport

end Failover
