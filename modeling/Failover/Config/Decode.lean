import Failover.Config.Document
import Failover.Config.Schema

/-!
# Reading configurations

A record is a table, in which unknown members are ignored, or a list of its fields in order. A field
that is missing takes its default value; only the URL of an endpoint has none.
-/

namespace Failover

/-- The fields of a record by name or by position. -/
inductive FieldSource where
  | named (members : List (String × Document))
  | ordered (items : List Document)

namespace FieldSource

/-- The fields of a record with so many of them. -/
def ofDocument? (dialect : Dialect) (count : Nat) : Document → Option FieldSource
  | .table members => some (.named members)
  | .moment => some (.named [])
  | .list items =>
    if items.length ≤ count ∨ dialect.allowsSurplus then some (.ordered items) else none
  | _ => none

/-- The document of a field, if it is there. -/
def find? (s : FieldSource) (index : Nat) (name : String) : Option Document :=
  match s with
  | named members => members.lookup name
  | ordered items => items[index]?

/-- The value of a field, or its default value if it is missing. -/
def get? {α : Type} (s : FieldSource) (index : Nat) (name : String)
    (read : Document → Option α) (default : α) : Option α :=
  match s.find? index name with
  | none => some default
  | some d => read d

/-- The value of a field that has no default value. -/
def require? {α : Type} (s : FieldSource) (index : Nat) (name : String)
    (read : Document → Option α) : Option α :=
  (s.find? index name).bind read

end FieldSource

/-- Reads the configuration of an endpoint. -/
def EndpointConfig.ofDocument? (dialect : Dialect) (d : Document) : Option EndpointConfig := do
  let source ← FieldSource.ofDocument? dialect 9 d
  let url ← source.require? 0 "url" Document.text?
  let username ← source.get? 1 "username" Document.text? ""
  let password ← source.get? 2 "password" Document.text? ""
  let passwordEnv ← source.get? 3 "password_env" (Document.nullable? Document.text?) none
  let priority ← source.get? 4 "priority" Document.int32? 0
  let name ← source.get? 5 "name" Document.text? ""
  let timeoutMs ← source.get? 6 "timeout_ms" Document.word64? EndpointConfig.defaultTimeoutMs
  let maxRetries ← source.get? 7 "max_retries" (Document.nullable? Document.word32?) none
  let verifyTls ← source.get? 8 "verify_tls" Document.bool? true
  return ⟨url, username, password, passwordEnv, priority, name, timeoutMs, maxRetries, verifyTls⟩

/-- Reads the section on health checks. -/
def HealthCheckConfig.ofDocument? (dialect : Dialect) (d : Document) :
    Option HealthCheckConfig := do
  let source ← FieldSource.ofDocument? dialect 4 d
  let standard := HealthCheckConfig.standard
  let enabled ← source.get? 0 "enabled" Document.bool? standard.enabled
  let intervalMs ← source.get? 1 "interval_ms" Document.word64? standard.intervalMs
  let probeMethod ← source.get? 2 "probe_method" Document.text? standard.probeMethod
  let stopTimeoutMs ← source.get? 3 "stop_timeout_ms" Document.word64? standard.stopTimeoutMs
  return ⟨enabled, intervalMs, probeMethod, stopTimeoutMs⟩

/-- Reads the section on retries. -/
def RetryConfig.ofDocument? (dialect : Dialect) (d : Document) : Option RetryConfig := do
  let source ← FieldSource.ofDocument? dialect 2 d
  let standard := RetryConfig.standard
  let maxRetries ← source.get? 0 "max_retries" Document.word32? standard.maxRetries
  let backoffUnitMs ← source.get? 1 "backoff_unit_ms" Document.word64? standard.backoffUnitMs
  return ⟨maxRetries, backoffUnitMs⟩

/-- Reads the section on circuit breakers. -/
def BreakerConfig.ofDocument? (dialect : Dialect) (d : Document) : Option BreakerConfig := do
  let source ← FieldSource.ofDocument? dialect 2 d
  let standard := BreakerConfig.standard
  let threshold ← source.get? 0 "threshold" Document.word32? standard.threshold
  let timeoutMs ← source.get? 1 "timeout_ms" Document.word64? standard.timeoutMs
  return ⟨threshold, timeoutMs⟩

/-- The format with a name. -/
def LogFormat.ofLabel? (s : String) : Option LogFormat :=
  if s = "pretty" then some .pretty else if s = "json" then some .json else none

/-- Reads a format: its name, or a table with the name as its only key. -/
def LogFormat.ofDocument? (dialect : Dialect) : Document → Option LogFormat
  | .text s => ofLabel? s
  | .table [(key, payload)] => if dialect.isUnit payload then ofLabel? key else none
  | _ => none

/-- Reads the section on logs and metrics. -/
def ObservabilityConfig.ofDocument? (dialect : Dialect) (d : Document) :
    Option ObservabilityConfig := do
  let source ← FieldSource.ofDocument? dialect 4 d
  let standard := ObservabilityConfig.standard
  let logLevel ← source.get? 0 "log_level" Document.text? standard.logLevel
  let logFormat ← source.get? 1 "log_format" (LogFormat.ofDocument? dialect) standard.logFormat
  let metricsEnabled ← source.get? 2 "metrics_enabled" Document.bool? standard.metricsEnabled
  let metricsAddress ← source.get? 3 "metrics_address" Document.text? standard.metricsAddress
  return ⟨logLevel, logFormat, metricsEnabled, metricsAddress⟩

/-- Reads the section on the status server. -/
def AdminConfig.ofDocument? (dialect : Dialect) (d : Document) : Option AdminConfig := do
  let source ← FieldSource.ofDocument? dialect 2 d
  let standard := AdminConfig.standard
  let enabled ← source.get? 0 "enabled" Document.bool? standard.enabled
  let bindAddress ← source.get? 1 "bind_address" Document.text? standard.bindAddress
  return ⟨enabled, bindAddress⟩

/-- Reads a whole configuration. -/
def Config.ofDocument? (dialect : Dialect) (d : Document) : Option Config := do
  let source ← FieldSource.ofDocument? dialect 6 d
  let endpoints ← source.get? 0 "endpoints"
    (Document.list? (EndpointConfig.ofDocument? dialect)) []
  let healthCheck ← source.get? 1 "health_check" (HealthCheckConfig.ofDocument? dialect) .standard
  let retries ← source.get? 2 "retries" (RetryConfig.ofDocument? dialect) .standard
  let breaker ← source.get? 3 "circuit_breaker" (BreakerConfig.ofDocument? dialect) .standard
  let observability ←
    source.get? 4 "observability" (ObservabilityConfig.ofDocument? dialect) .standard
  let admin ← source.get? 5 "admin" (AdminConfig.ofDocument? dialect) .standard
  return ⟨endpoints, healthCheck, retries, breaker, observability, admin⟩

end Failover
