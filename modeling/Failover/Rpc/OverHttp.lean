import Failover.Http.Client
import Failover.Rpc.Transport

/-!
# Calls over HTTP

A request of a remote procedure is posted as JSON to the URL of its endpoint. A response whose code
does not stand for success is a failure whatever its body; otherwise the body has to be an envelope.
-/

namespace Failover

namespace Rpc

namespace OverHttp

/-- What the client calls itself. -/
def userAgent : String := "rpc-failover/0.1.0"

/-- What is posted for a request with this identifier. -/
def draft (id : String) (endpoint : Endpoint) (r : Request) : Http.Draft where
  verb := "POST"
  url := endpoint.url
  credentials :=
    if endpoint.hasCredentials then some ⟨endpoint.username, endpoint.password⟩ else none
  contentType := some "application/json"
  userAgent := some userAgent
  body := r.body id
  patience := some endpoint.timeout

/-- The failure that stands for a response without an envelope. -/
def undecodable : Failure := .decode "error decoding response body"

/-- What a status code and a complete body say. -/
def outcome (status : Nat) (body : List UInt8) : Result Json :=
  if Http.Status.isSuccess status then
    match Envelope.ofBytes? body with
    | some envelope => envelope.outcome
    | none => .error undecodable
  else .error (.httpStatus status)

/-- What a response says. -/
def result (r : Http.Response) : Result Json :=
  match r.content? with
  | some body => outcome r.status body
  | none => if Http.Status.isSuccess r.status then .error undecodable else .error (.httpStatus r.status)

/-- The answer that the end of a posted request gives. -/
def reply : Http.Client.Outcome → Reply
  | .failed problem => .result (.error (.transport problem.message))
  | .silence => .silence
  | .response r => .result (result r)

variable {σ : Type}

/-- Posts a request. Without any time for it, nothing is sent. -/
def post (net : Http.Network σ) (id : String) (s : σ) (endpoint : Endpoint) (r : Request) :
    Answer × σ :=
  match Http.Client.prepare (draft id endpoint r) with
  | .error problem => (⟨0, reply (.failed problem)⟩, s)
  | .ok (request, origin, url) =>
    if endpoint.timeout = .zero then (⟨0, .result (.error (.timeout endpoint.timeout))⟩, s)
    else
      let (ended, s) := Http.Client.perform net s request origin url
      (⟨net.latency s, reply ended⟩, s)

/-- The transport over a network. Each request takes its identifier from the state of the network.
-/
def transport (net : Http.Network σ) (identifier : σ → String) : Transport σ where
  send s endpoint r := post net (identifier s) s endpoint r

end OverHttp

end Rpc

end Failover
