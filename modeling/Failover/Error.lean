import Failover.Rpc.Failure

/-!
# Errors of the failover layer

What a manager reports to its caller. The only error of a call is `Error.exhausted`: no endpoint
answered.
-/

namespace Failover

/-- Settings that cannot run. -/
inductive SettingsProblem where
  | zeroInterval
  | blankProbeMethod
deriving DecidableEq, Inhabited

/-- The problem in words. -/
def SettingsProblem.message : SettingsProblem → String
  | zeroInterval => "health check interval must be non-zero"
  | blankProbeMethod => "probe method must not be empty"

/-- What a manager reports to its caller. -/
inductive Error where
  | noEndpoints
  | invalidSettings (problem : SettingsProblem)
  /-- The transport could not be set up. -/
  | transport (failure : Rpc.Failure)
  /-- Every endpoint was skipped or failed; the last failure, if any endpoint was tried. -/
  | exhausted (method : String) (lastFailure : Option Rpc.Failure)
deriving DecidableEq, Inhabited

namespace Error

/-- The error in words. -/
def message : Error → String
  | noEndpoints => "at least one RPC endpoint is required"
  | invalidSettings problem => "invalid failover settings: " ++ problem.message
  | transport failure => "failed to initialize RPC transport: " ++ failure.message
  | exhausted method (some failure) =>
    "all RPC endpoints failed for method '" ++ method ++ "': last error: " ++ failure.message
  | exhausted method none =>
    "all RPC endpoints failed for method '" ++ method ++ "': no endpoint was eligible"

/-- The error in diagnostic form. -/
def toText : Error → String
  | noEndpoints => "NoEndpoints"
  | invalidSettings problem => Text.tuple "InvalidSettings" [Text.quoted problem.message]
  | transport failure => Text.tuple "Transport" [failure.toText]
  | exhausted method failure =>
    Text.record "Exhausted"
      [("method", Text.quoted method), ("last_error", Text.optional Rpc.Failure.toText failure)]

/-- Whether the service is unavailable for now. -/
def isUnavailable : Error → Bool
  | exhausted _ _ => true
  | _ => false

/-- The last failure of an endpoint. -/
def lastFailure? : Error → Option Rpc.Failure
  | exhausted _ failure => failure
  | _ => none

/-- The failure that caused the error, in words. -/
def source? : Error → Option String
  | transport failure => some failure.message
  | _ => none

end Error

end Failover
