import Failover.Http.Status
import Failover.Net.SocketAddress
import Failover.Time.Duration

/-!
# Messages

The requests and responses that are exchanged over HTTP, with the headers that matter here. An
`Exchange` says what becomes of a request that is sent to a server, and a `Network` answers with
one.
-/

namespace Failover

namespace Http

/-- A request. -/
structure Request where
  verb : String
  /-- The path and the query. -/
  target : String
  /-- The credentials, in the order in which they are sent. -/
  authorization : List String
  contentType : Option String
  userAgent : Option String
  body : String
  /-- How long the sender waits for the response; forever if there is none. It is not sent. -/
  patience : Option Duration
deriving DecidableEq, Inhabited

/-- The first line of a request. -/
def Request.line (r : Request) : String := r.verb ++ " " ++ r.target ++ " HTTP/1.1"

/-- A response. -/
structure Response where
  status : Nat
  contentType : Option String
  /-- The part of the body that arrived. -/
  body : List UInt8
  /-- The number of octets that were promised but never arrived. -/
  missing : Nat
deriving Inhabited

/-- The whole body, unless a part of it is missing. -/
def Response.content? (r : Response) : Option (List UInt8) :=
  if Status.isBodiless r.status then some []
  else if r.missing = 0 then some r.body
  else none

/-- A server, as a URL names it. -/
structure Origin where
  /-- Whether the connection is encrypted. -/
  isSecure : Bool
  host : Url.Host
  port : Nat
deriving DecidableEq, Inhabited

/-- The part of a response that is not well formed. -/
inductive HeadPart where
  | version
  | status
deriving DecidableEq, Inhabited

/-- What becomes of a request. -/
inductive Exchange where
  | unknownHost
  /-- Nothing listens at the address. -/
  | refused (address : Net.SocketAddress)
  /-- The connection was closed before a response came. -/
  | dropped
  /-- What came is no response. -/
  | garbled (part : HeadPart)
  /-- Nothing ever comes. -/
  | silence
  | response (r : Response)
deriving Inhabited

/-- Carries requests to servers; `σ` is its state. -/
structure Network (σ : Type) where
  exchange : σ → Origin → Request → Exchange × σ
  /-- How many milliseconds the latest exchange took. -/
  latency : σ → Nat

end Http

end Failover
