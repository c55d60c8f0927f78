import Failover.Config.Schema
import Failover.Json.Value

/-!
# Writing configurations

Configurations as JSON, with every field present.
-/

namespace Failover

/-- A text that may be missing. -/
def optionalJson {α : Type} (encode : α → Json) : Option α → Json
  | none => .null
  | some a => encode a

/-- The configuration of an endpoint as JSON. -/
def EndpointConfig.toJson (c : EndpointConfig) : Json :=
  Json.ofMembers
    [("url", .string c.url),
      ("username", .string c.username),
      ("password", .string c.password),
      ("password_env", optionalJson .string c.passwordEnv),
      ("priority", .int c.priority.toInt),
      ("name", .string c.name),
      ("timeout_ms", .int c.timeoutMs.toNat),
      ("max_retries", optionalJson (fun n => .int n.toNat) c.maxRetries),
      ("verify_tls", .bool c.verifyTls)]

/-- A whole configuration as JSON. -/
def Config.toJson (c : Config) : Json :=
  Json.ofMembers
    [("endpoints", .array (c.endpoints.map EndpointConfig.toJson)),
      ("health_check", Json.ofMembers
        [("enabled", .bool c.healthCheck.enabled),
          ("interval_ms", .int c.healthCheck.intervalMs.toNat),
          ("probe_method", .string c.healthCheck.probeMethod),
          ("stop_timeout_ms", .int c.healthCheck.stopTimeoutMs.toNat)]),
      ("retries", Json.ofMembers
        [("max_retries", .int c.retries.maxRetries.toNat),
          ("backoff_unit_ms", .int c.retries.backoffUnitMs.toNat)]),
      ("circuit_breaker", Json.ofMembers
        [("threshold", .int c.breaker.threshold.toNat),
          ("timeout_ms", .int c.breaker.timeoutMs.toNat)]),
      ("observability", Json.ofMembers
        [("log_level", .string c.observability.logLevel),
          ("log_format", .string c.observability.logFormat.label),
          ("metrics_enabled", .bool c.observability.metricsEnabled),
          ("metrics_address", .string c.observability.metricsAddress)]),
      ("admin", Json.ofMembers
        [("enabled", .bool c.admin.enabled),
          ("bind_address", .string c.admin.bindAddress)])]

end Failover
