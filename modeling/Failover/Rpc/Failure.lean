import Failover.Json.Printer
import Failover.Text.Quoted
import Failover.Time.Duration

/-!
# Failures of a single request

Why one request to one endpoint did not bring a value. `Failure.ofErrorValue` reads the `error`
member of an answer: a code and a message if it has them, otherwise the whole value as JSON text.
-/

namespace Failover

namespace Rpc

/-- Why a request to one endpoint failed. -/
inductive Failure where
  /-- The endpoint could not be reached. -/
  | transport (message : String)
  /-- There was no answer within the deadline. -/
  | timeout (deadline : Duration)
  /-- The answer had an HTTP status outside of 200 to 299. -/
  | httpStatus (status : Nat)
  /-- The answer carried an error of the remote procedure. -/
  | rpc (code : Option Int) (message : String)
  /-- The answer was no envelope. -/
  | decode (message : String)
  /-- A probe was answered by null. -/
  | emptyResult
deriving DecidableEq, Inhabited

/-- What a request brings: a value or the reason why there is none. -/
abbrev Result (α : Type) := Except Failure α

namespace Failure

/-- The failure in words. -/
def message : Failure → String
  | transport text => "transport error: " ++ text
  | timeout deadline => "request timed out after " ++ deadline.toText
  | httpStatus status => "HTTP status " ++ toString status
  | rpc none text => "RPC error: " ++ text
  | rpc (some code) text => "RPC error: " ++ text ++ " (code " ++ toString code ++ ")"
  | decode text => "invalid response: " ++ text
  | emptyResult => "empty result"

/-- The failure in diagnostic form. -/
def toText : Failure → String
  | transport text => Text.tuple "Transport" [Text.quoted text]
  | timeout deadline => Text.tuple "Timeout" [deadline.toText]
  | httpStatus status => Text.tuple "HttpStatus" [toString status]
  | rpc code text =>
    Text.record "Rpc"
      [("code", Text.optional (fun n => toString n) code), ("message", Text.quoted text)]
  | decode text => Text.tuple "Decode" [Text.quoted text]
  | emptyResult => "EmptyResult"

/-- The failure that an `error` value describes. -/
def ofErrorValue (error : Json) : Failure :=
  rpc ((error.get? "code").bind Json.int64?)
    (((error.get? "message").bind Json.string?).getD error.compact)

end Failure

end Rpc

end Failover
