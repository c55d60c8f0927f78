import Failover.Json.Printer
import Failover.Json.Reading
import Failover.Rpc.Failure

/-!
# Envelopes of requests and answers

A request names a method and its positional parameters. The envelope of an answer has the members
`result`, `error` and `id`, each at most once, or it is an array of at most these three in this
order. Whatever else an envelope holds only has to be well formed, so it is read from an outline.
-/

namespace Failover

namespace Rpc

/-- A method with its positional parameters. -/
structure Request where
  method : String
  params : List Json
deriving Inhabited

/-- The text that is sent for a request with this identifier. -/
def Request.body (id : String) (r : Request) : String :=
  "\x7b\"jsonrpc\":\"2.0\",\"id\":" ++ Json.quote id ++ ",\"method\":" ++ Json.quote r.method ++
    ",\"params\":" ++ (Json.array r.params).compact ++ "\x7d"

/-- The members of an answer that matter; those that are missing are `none`. -/
structure Envelope where
  result : Option Json
  error : Option Json
  id : Option Json
deriving Inhabited

namespace Envelope

/-- The envelope without any members. -/
def empty : Envelope := ⟨none, none, none⟩

/-- The number of containers that may be open inside of the envelope. -/
def memberDepth : Nat := Json.depthLimit - 1

/-- Puts a value into a place that must still be free. -/
def place? (slot : Option Json) (item : Json.Outline) : Option (Option Json) :=
  match slot with
  | some _ => none
  | none => (item.value? memberDepth).map some

/-- Takes in one more member. -/
def add? (e : Envelope) (member : List UInt8 × Json.Outline) : Option Envelope :=
  match Json.stringValue? member.1 with
  | none => none
  | some key =>
    if key = "result" then (place? e.result member.2).map fun v => { e with result := v }
    else if key = "error" then (place? e.error member.2).map fun v => { e with error := v }
    else if key = "id" then (place? e.id member.2).map fun v => { e with id := v }
    else some e

/-- The envelope that an outline describes. -/
def ofOutline? : Json.Outline → Option Envelope
  | .object members => members.foldlM add? empty
  | .array items =>
    match items.mapM (Json.Outline.value? memberDepth) with
    | some [] => some empty
    | some [r] => some ⟨some r, none, none⟩
    | some [r, e] => some ⟨some r, some e, none⟩
    | some [r, e, i] => some ⟨some r, some e, some i⟩
    | _ => none
  | .scalar _ => none

/-- The envelope of a body. -/
def ofBytes? (body : List UInt8) : Option Envelope := (Json.Outline.ofBytes? body).bind ofOutline?

/-- The identifier, unless it is missing or null. -/
def id? (e : Envelope) : Option Json := e.id.filter fun v => !v.isNull

/-- An error that is neither missing nor null is a failure; otherwise the result, null if it is
missing. -/
def outcome (e : Envelope) : Result Json :=
  match e.error.filter fun v => !v.isNull with
  | some error => .error (Failure.ofErrorValue error)
  | none => .ok (e.result.getD .null)

end Envelope

end Rpc

end Failover
