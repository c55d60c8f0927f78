import Failover.Http.Message

/-!
# Scripted servers

A `Node` is a server on the loopback interface that plays a list of replies: each connection gets
the next one, and the last one repeats. It keeps the requests that it has seen.
-/

namespace Failover

namespace Http

/-- What a node does with a request. -/
inductive NodeReply where
  | respond (r : Response)
  /-- It closes the connection. -/
  | close
  /-- It never answers. -/
  | hang

/-- A server that plays replies. -/
structure Node where
  port : Nat
  /-- The replies that are still to come. -/
  replies : List NodeReply
  /-- The requests so far, the latest first. -/
  seen : List Request

namespace Node

/-- A node that has seen nothing yet. -/
def new (port : Nat) (replies : List NodeReply) : Node := ⟨port, replies, []⟩

/-- The requests so far in order. -/
def requests (n : Node) : List Request := n.seen.reverse

/-- The replies that are left once the next one has been played. -/
def rest : List NodeReply → List NodeReply
  | [] => []
  | [last] => [last]
  | _ :: later => later

/-- What the client of a reply gets to see. A client skips an interim response and waits for another
one, which never comes: either the connection ends or the body is taken for it. -/
def NodeReply.exchange : NodeReply → Exchange
  | .close => .dropped
  | .hang => .silence
  | .respond r =>
    if !Status.isWellFormed r.status then .garbled .status
    else if Status.isInterim r.status then
      if r.body.isEmpty then .dropped else .garbled .version
    else .response r

/-- The response of a node that has no replies at all. -/
def empty : Response := ⟨200, none, [], 0⟩

/-- The next reply to a request. -/
def answer (n : Node) (r : Request) : Exchange × Node :=
  (NodeReply.exchange (n.replies.head?.getD (.respond empty)),
    { n with replies := rest n.replies, seen := r :: n.seen })

/-- The address at which a node can be reached. -/
def address (n : Node) : Net.SocketAddress := ⟨.loopback, n.port⟩

/-- The network in which there is nothing but a node. It does not speak to clients that encrypt. -/
def network : Network Node where
  exchange n origin r :=
    match Net.IpAddress.ofHost? origin.host with
    | none => (.unknownHost, n)
    | some ip =>
      let wanted : Net.SocketAddress := ⟨ip, origin.port⟩
      if wanted.reaches n.address then
        if origin.isSecure then (.dropped, n) else n.answer r
      else (.refused wanted, n)
  latency _ := 0

end Node

end Http

end Failover
