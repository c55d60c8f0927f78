import Failover.Config.Schema
import Failover.Text.Blank
import Failover.Url.Basic

/-!
# Checking configurations

`Config.problems` lists everything that is wrong with a configuration: first what concerns its
endpoints, in order, then what concerns it as a whole. An endpoint whose URL is blank is not looked
at any further.
-/

namespace Failover

/-- Something wrong with a configuration. -/
inductive ConfigProblem where
  | noEndpoints
  | emptyUrl (index : Nat)
  | invalidUrl (url reason : String)
  | unsupportedScheme (url scheme : String)
  | duplicateUrl (url : String)
  | zeroTimeout (url : String)
  | zeroEndpointRetries (url : String)
  | missingPasswordEnv (url envName : String)
  | zeroRetries
  | zeroBreakerThreshold
  | zeroProbeInterval
  | emptyProbeMethod
deriving DecidableEq, Inhabited

namespace ConfigProblem

/-- The name of the problem. -/
def name : ConfigProblem → String
  | noEndpoints => "NoEndpoints"
  | emptyUrl _ => "EmptyUrl"
  | invalidUrl .. => "InvalidUrl"
  | unsupportedScheme .. => "UnsupportedScheme"
  | duplicateUrl _ => "DuplicateUrl"
  | zeroTimeout _ => "ZeroTimeout"
  | zeroEndpointRetries _ => "ZeroEndpointRetries"
  | missingPasswordEnv .. => "MissingPasswordEnv"
  | zeroRetries => "ZeroRetries"
  | zeroBreakerThreshold => "ZeroBreakerThreshold"
  | zeroProbeInterval => "ZeroProbeInterval"
  | emptyProbeMethod => "EmptyProbeMethod"

/-- The problem in words. -/
def message : ConfigProblem → String
  | noEndpoints => "at least one RPC endpoint is required"
  | emptyUrl index => "endpoint #" ++ toString index ++ " has an empty url"
  | invalidUrl url reason => "endpoint '" ++ url ++ "' is not a valid url: " ++ reason
  | unsupportedScheme url scheme =>
    "endpoint '" ++ url ++ "' uses unsupported scheme '" ++ scheme ++ "'"
  | duplicateUrl url => "endpoint '" ++ url ++ "' is configured more than once"
  | zeroTimeout url => "endpoint '" ++ url ++ "' has a zero timeout"
  | zeroEndpointRetries url => "endpoint '" ++ url ++ "' sets max_retries to 0"
  | missingPasswordEnv url envName =>
    "environment variable '" ++ envName ++ "' for endpoint '" ++ url ++ "' is not set"
  | zeroRetries => "retries.max_retries must be at least 1"
  | zeroBreakerThreshold => "circuit_breaker.threshold must be at least 1"
  | zeroProbeInterval => "health_check.interval_ms must be greater than 0"
  | emptyProbeMethod => "health_check.probe_method must not be empty"

/-- The problem in diagnostic form. -/
def toText (p : ConfigProblem) : String :=
  let field (name : String) (value : String) : String × String := (name, Text.quoted value)
  match p with
  | emptyUrl index => Text.record p.name [("index", toString index)]
  | invalidUrl url reason => Text.record p.name [field "url" url, field "reason" reason]
  | unsupportedScheme url scheme => Text.record p.name [field "url" url, field "scheme" scheme]
  | duplicateUrl url | zeroTimeout url | zeroEndpointRetries url =>
    Text.record p.name [field "url" url]
  | missingPasswordEnv url envName => Text.record p.name [field "url" url, field "var" envName]
  | noEndpoints | zeroRetries | zeroBreakerThreshold | zeroProbeInterval | emptyProbeMethod => p.name

end ConfigProblem

/-- Reads a URL: its scheme, or why it is none. -/
abbrev UrlReader := String → Except String String

/-- The scheme of a URL, or in words why it is none. -/
def Url.schemeOf (text : String) : Except String String :=
  match Url.parse text with
  | .ok url => .ok url.scheme
  | .error problem => .error problem.message

namespace EndpointConfig

/-- What is wrong with a URL that is not blank. -/
def urlProblems (readUrl : UrlReader) (url : String) : List ConfigProblem :=
  match readUrl url with
  | .ok scheme =>
    if scheme = "http" ∨ scheme = "https" then [] else [.unsupportedScheme url scheme]
  | .error reason => [.invalidUrl url reason]

/-- What is wrong with an endpoint, given its index and the URLs in front of it that are not blank.
-/
def problems (readUrl : UrlReader) (index : Nat) (seen : List String) (c : EndpointConfig) :
    List ConfigProblem :=
  if Text.isBlank c.url then [.emptyUrl index]
  else
    urlProblems readUrl c.url ++
      (if seen.contains c.url then [.duplicateUrl c.url] else []) ++
      (if c.timeoutMs = 0 then [.zeroTimeout c.url] else []) ++
      (if c.maxRetries = some 0 then [.zeroEndpointRetries c.url] else [])

/-- What is wrong with endpoints that start at an index. -/
def allProblems (readUrl : UrlReader) (index : Nat) (seen : List String) :
    List EndpointConfig → List ConfigProblem
  | [] => []
  | c :: rest =>
    let seenNow := if Text.isBlank c.url then seen else c.url :: seen
    c.problems readUrl index seen ++ allProblems readUrl (index + 1) seenNow rest

end EndpointConfig

namespace Config

/-- What is wrong with a configuration as a whole. -/
def commonProblems (c : Config) : List ConfigProblem :=
  (if c.retries.maxRetries = 0 then [.zeroRetries] else []) ++
    (if c.breaker.threshold = 0 then [.zeroBreakerThreshold] else []) ++
    (if c.healthCheck.intervalMs = 0 then [.zeroProbeInterval] else []) ++
    (if Text.isBlank c.healthCheck.probeMethod then [.emptyProbeMethod] else [])

/-- Everything that is wrong with a configuration. -/
def problems (readUrl : UrlReader) (c : Config) : List ConfigProblem :=
  (if c.endpoints.isEmpty then [.noEndpoints] else []) ++
    EndpointConfig.allProblems readUrl 0 [] c.endpoints ++ c.commonProblems

/-- Everything that is wrong with a configuration, with URLs read as `Url.parse` does. -/
def standardProblems (c : Config) : List ConfigProblem := c.problems Url.schemeOf

end Config

end Failover
