import Failover.Text.Quoted
import Failover.Time.Duration

/-!
# Configuration

The sections of a configuration with their default values. Every number is a machine word of the
width that the file format gives it.
-/

namespace Failover

/-- The configuration of one endpoint. -/
structure EndpointConfig where
  url : String
  username : String
  password : String
  /-- The environment variable that holds the password. -/
  passwordEnv : Option String
  /-- Endpoints with a lower number are preferred. -/
  priority : Int32
  name : String
  timeoutMs : UInt64
  /-- The number of attempts, if it differs from the common one. -/
  maxRetries : Option UInt32
  verifyTls : Bool
deriving DecidableEq, Inhabited

namespace EndpointConfig

/-- The time that a call may take, unless it is configured. -/
def defaultTimeoutMs : UInt64 := 30000

/-- The endpoint at `url` with default values. -/
def ofUrl (url : String) : EndpointConfig where
  url := url
  username := ""
  password := ""
  passwordEnv := none
  priority := 0
  name := ""
  timeoutMs := defaultTimeoutMs
  maxRetries := none
  verifyTls := true

/-- Sets the priority. -/
def withPriority (c : EndpointConfig) (priority : Int32) : EndpointConfig :=
  { c with priority := priority }

/-- Sets the name. -/
def withName (c : EndpointConfig) (name : String) : EndpointConfig := { c with name := name }

/-- Sets the user name and the password. -/
def withCredentials (c : EndpointConfig) (username password : String) : EndpointConfig :=
  { c with username := username, password := password }

/-- Sets the deadline to the whole milliseconds of `timeout`, modulo `2 ^ 64`. -/
def withTimeout (c : EndpointConfig) (timeout : Duration) : EndpointConfig :=
  { c with timeoutMs := UInt64.ofNat timeout.millis }

/-- Sets the number of attempts. -/
def withMaxRetries (c : EndpointConfig) (maxRetries : UInt32) : EndpointConfig :=
  { c with maxRetries := some maxRetries }

/-- The configuration in diagnostic form, without the password. -/
def toText (c : EndpointConfig) : String :=
  Text.record "EndpointConfig"
    [("url", Text.quoted c.url),
      ("username", Text.quoted c.username),
      ("password", Text.quoted "<redacted>"),
      ("password_env", Text.optional Text.quoted c.passwordEnv),
      ("priority", toString c.priority.toInt),
      ("name", Text.quoted c.name),
      ("timeout_ms", toString c.timeoutMs.toNat),
      ("max_retries", Text.optional (fun n => toString n.toNat) c.maxRetries),
      ("verify_tls", Text.truth c.verifyTls)]

end EndpointConfig

/-- The background probes. -/
structure HealthCheckConfig where
  enabled : Bool
  intervalMs : UInt64
  probeMethod : String
  /-- How long stopping waits for the prober. -/
  stopTimeoutMs : UInt64
deriving DecidableEq

/-- The attempts on one endpoint. -/
structure RetryConfig where
  maxRetries : UInt32
  backoffUnitMs : UInt64
deriving DecidableEq

/-- The circuit breakers. -/
structure BreakerConfig where
  threshold : UInt32
  timeoutMs : UInt64
deriving DecidableEq

/-- The form of log lines. -/
inductive LogFormat where
  | pretty
  | json
deriving DecidableEq

/-- Logs and metrics. -/
structure ObservabilityConfig where
  logLevel : String
  logFormat : LogFormat
  metricsEnabled : Bool
  metricsAddress : String
deriving DecidableEq

/-- The status server. -/
structure AdminConfig where
  enabled : Bool
  bindAddress : String
deriving DecidableEq

/-- A whole configuration. -/
structure Config where
  endpoints : List EndpointConfig
  healthCheck : HealthCheckConfig
  retries : RetryConfig
  breaker : BreakerConfig
  observability : ObservabilityConfig
  admin : AdminConfig
deriving DecidableEq

namespace HealthCheckConfig

/-- A probe every thirty seconds. -/
def standard : HealthCheckConfig := ⟨true, 30000, "getblockcount", 5000⟩

/-- The section in diagnostic form. -/
def toText (c : HealthCheckConfig) : String :=
  Text.record "HealthCheckConfig"
    [("enabled", Text.truth c.enabled),
      ("interval_ms", toString c.intervalMs.toNat),
      ("probe_method", Text.quoted c.probeMethod),
      ("stop_timeout_ms", toString c.stopTimeoutMs.toNat)]

end HealthCheckConfig

namespace RetryConfig

/-- Three attempts with pauses of one second and more. -/
def standard : RetryConfig := ⟨3, 1000⟩

/-- The section in diagnostic form. -/
def toText (c : RetryConfig) : String :=
  Text.record "RetryConfig"
    [("max_retries", toString c.maxRetries.toNat),
      ("backoff_unit_ms", toString c.backoffUnitMs.toNat)]

end RetryConfig

namespace BreakerConfig

/-- A breaker opens for a minute after five failures. -/
def standard : BreakerConfig := ⟨5, 60000⟩

/-- The section in diagnostic form. -/
def toText (c : BreakerConfig) : String :=
  Text.record "CircuitBreakerConfig"
    [("threshold", toString c.threshold.toNat), ("timeout_ms", toString c.timeoutMs.toNat)]

end BreakerConfig

namespace LogFormat

/-- The format as it is written in a file. -/
def label : LogFormat → String
  | pretty => "pretty"
  | json => "json"

/-- The format in diagnostic form. -/
def toText : LogFormat → String
  | pretty => "Pretty"
  | json => "Json"

end LogFormat

namespace ObservabilityConfig

/-- Readable logs from level `info` on, and no metrics. -/
def standard : ObservabilityConfig := ⟨"info", .pretty, false, "0.0.0.0:9090"⟩

/-- The section in diagnostic form. -/
def toText (c : ObservabilityConfig) : String :=
  Text.record "ObservabilityConfig"
    [("log_level", Text.quoted c.logLevel),
      ("log_format", c.logFormat.toText),
      ("metrics_enabled", Text.truth c.metricsEnabled),
      ("metrics_address", Text.quoted c.metricsAddress)]

end ObservabilityConfig

namespace AdminConfig

/-- The status server on the local machine. -/
def standard : AdminConfig := ⟨true, "127.0.0.1:8081"⟩

/-- The section in diagnostic form. -/
def toText (c : AdminConfig) : String :=
  Text.record "AdminConfig"
    [("enabled", Text.truth c.enabled), ("bind_address", Text.quoted c.bindAddress)]

end AdminConfig

namespace Config

/-- The configuration without any endpoint. -/
def standard : Config :=
  ⟨[], .standard, .standard, .standard, .standard, .standard⟩

instance : Inhabited Config := ⟨standard⟩

/-- The configuration in diagnostic form, without passwords. -/
def toText (c : Config) : String :=
  Text.record "FailoverConfig"
    [("endpoints", Text.list EndpointConfig.toText c.endpoints),
      ("health_check", c.healthCheck.toText),
      ("retries", c.retries.toText),
      ("circuit_breaker", c.breaker.toText),
      ("observability", c.observability.toText),
      ("admin", c.admin.toText)]

end Config

end Failover
