import Failover.Config.Schema

/-!
# Endpoints

An `Endpoint` is a node that calls can be sent to. Its URL is also the key of its breaker.
-/

namespace Failover

/-- A node that calls can be sent to. -/
structure Endpoint where
  url : String
  username : String
  password : String
  /-- Endpoints with a lower number are preferred. -/
  priority : Int
  name : String
  /-- The deadline of a single request. -/
  timeout : Duration
  /-- The number of attempts, if it differs from the common one. -/
  maxRetries : Option UInt32
  verifyTls : Bool
deriving DecidableEq, Inhabited

namespace Endpoint

/-- The endpoint that a configuration describes. -/
def ofConfig (c : EndpointConfig) : Endpoint where
  url := c.url
  username := c.username
  password := c.password
  priority := c.priority.toInt
  name := c.name
  timeout := Duration.ofMillis c.timeoutMs.toNat
  maxRetries := c.maxRetries
  verifyTls := c.verifyTls

/-- An endpoint has the configured URL. -/
@[simp] theorem ofConfig_url (c : EndpointConfig) : (ofConfig c).url = c.url := rfl

/-- An endpoint has the configured priority, as an integer. -/
@[simp] theorem ofConfig_priority (c : EndpointConfig) :
    (ofConfig c).priority = c.priority.toInt := rfl

/-- The name in logs and reports: the URL if there is no other. -/
def displayName (e : Endpoint) : String := if e.name = "" then e.url else e.name

/-- Whether calls carry a user name and a password. -/
def hasCredentials (e : Endpoint) : Bool := e.username ≠ "" || e.password ≠ ""

/-- The endpoint in diagnostic form, without its credentials. -/
def toText (e : Endpoint) : String :=
  Text.openRecord "Endpoint"
    [("url", Text.quoted e.url),
      ("name", Text.quoted e.name),
      ("priority", toString e.priority),
      ("timeout", e.timeout.toText),
      ("max_retries", Text.optional (fun n => toString n.toNat) e.maxRetries),
      ("verify_tls", Text.truth e.verifyTls)]

end Endpoint

end Failover
