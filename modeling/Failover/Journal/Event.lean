import Failover.Health.Eligibility
import Failover.Rpc.Failure

/-!
# Log events

What the library reports while it runs. An `Event` is a fact of the domain; its level, its words and
its fields follow from it.
-/

namespace Failover

/-- The severity of an event. -/
inductive Level where
  | trace
  | debug
  | info
  | warn
  | error
deriving DecidableEq, Inhabited

/-- The level in capitals. -/
def Level.label : Level → String
  | trace => "TRACE"
  | debug => "DEBUG"
  | info => "INFO"
  | warn => "WARN"
  | error => "ERROR"

/-- The value of a field of an event. -/
inductive Field where
  /-- A text that is shown as it is. -/
  | plain (text : String)
  /-- A text that is shown between quotes. -/
  | quoted (text : String)
  | count (n : Nat)
  | real (x : Float)
deriving DecidableEq, Inhabited

/-- A fact that is logged. An endpoint is given by its display name. -/
inductive Event where
  | managerInitialized (endpoints : Nat) (primary : String)
  | healthChecksDisabled
  | proberAlreadyRunning
  | proberAlreadyExited
  | proberStopped
  | proberOverdue (timeoutMs : Nat)
  | shutdownTriggered (listeners : Nat)
  | proberStarting (intervalMs : Nat) (method : String) (endpoints : Nat)
  | proberReceivedShutdown
  | cycleFaulted (text : String)
  | probeSucceeded (endpoint : String) (latencyMs : Float)
  | probeFailed (endpoint : String) (failure : Rpc.Failure)
  | endpointSkipped (endpoint : String) (reason : Eligibility)
  | sending (endpoint : String) (attempt : Nat)
  | retrying (attempt maxAttempts : Nat) (pause : Duration) (failure : Rpc.Failure)
  | callSucceeded (endpoint : String) (latencyMs : Float)
  | endpointFailed (endpoint : String) (failure : Rpc.Failure)
  | allFailed (failure : Rpc.Failure)
  | noneEligible
  | endpointRecovered (endpoint : String) (previous : HealthStatus)
  | breakerOpened (endpoint : String) (failures : Nat)
  | breakerElapsed (key : String)
deriving DecidableEq

namespace Event

/-- The severity. -/
def level : Event → Level
  | sending .. => .trace
  | proberAlreadyExited | shutdownTriggered _ | probeSucceeded .. | endpointSkipped .. | retrying ..
  | callSucceeded .. | breakerElapsed _ => .debug
  | managerInitialized .. | healthChecksDisabled | proberStopped | proberStarting ..
  | proberReceivedShutdown | endpointRecovered .. => .info
  | proberAlreadyRunning | proberOverdue _ | probeFailed .. | endpointFailed .. => .warn
  | cycleFaulted _ | allFailed _ | noneEligible | breakerOpened .. => .error

/-- The part of the library that reports the event. -/
def target : Event → String
  | managerInitialized .. | healthChecksDisabled | proberAlreadyRunning | proberAlreadyExited
  | proberStopped | proberOverdue _ => "rpc_failover::failover::manager"
  | endpointSkipped .. | sending .. | callSucceeded .. | endpointFailed .. | allFailed _
  | noneEligible => "rpc_failover::failover::dispatcher"
  | proberStarting .. | proberReceivedShutdown | cycleFaulted _ | probeSucceeded ..
  | probeFailed .. => "rpc_failover::health::active"
  | endpointRecovered .. | breakerOpened .. => "rpc_failover::health::tracker"
  | retrying .. => "rpc_failover::resilience::retries"
  | breakerElapsed _ => "rpc_failover::resilience::circuit_breaker"
  | shutdownTriggered _ => "rpc_failover::lifecycle::shutdown"

/-- The event in words. -/
def text : Event → String
  | managerInitialized .. => "Failover manager initialized"
  | healthChecksDisabled => "Health checks disabled, prober not started"
  | proberAlreadyRunning => "Health prober already running"
  | proberAlreadyExited => "Health prober already exited"
  | proberStopped => "Health prober stopped"
  | proberOverdue _ => "Health prober did not stop in time, aborting"
  | shutdownTriggered _ => "Shutdown triggered"
  | proberStarting .. => "Health prober starting"
  | proberReceivedShutdown => "Health prober received shutdown signal, exiting loop"
  | cycleFaulted _ => "Health check cycle panicked"
  | probeSucceeded .. => "Health check OK"
  | probeFailed .. => "Health check failed"
  | endpointSkipped .. => "Skipping endpoint"
  | sending .. => "Sending"
  | retrying .. => "Retrying after backoff"
  | callSucceeded .. => "Call succeeded"
  | endpointFailed .. => "Endpoint failed, trying next"
  | allFailed _ => "All RPC endpoints failed"
  | noneEligible => "No RPC endpoint was eligible"
  | endpointRecovered .. => "Endpoint recovered"
  | breakerOpened .. => "Circuit breaker opened"
  | breakerElapsed _ => "Circuit breaker timeout elapsed, closing"

/-- The fields in order. -/
def fields : Event → List (String × Field)
  | managerInitialized endpoints primary =>
    [("endpoints", .count endpoints), ("primary", .plain primary)]
  | proberOverdue timeoutMs => [("timeout_ms", .count timeoutMs)]
  | shutdownTriggered listeners => [("listeners", .count listeners)]
  | proberStarting intervalMs method endpoints =>
    [("interval_ms", .count intervalMs), ("method", .plain method), ("endpoints", .count endpoints)]
  | cycleFaulted text => [("error", .plain text)]
  | probeSucceeded endpoint latencyMs =>
    [("endpoint", .plain endpoint), ("latency_ms", .real latencyMs)]
  | probeFailed endpoint failure =>
    [("endpoint", .plain endpoint), ("error", .plain failure.message)]
  | endpointSkipped endpoint reason =>
    [("endpoint", .plain endpoint), ("reason", .plain reason.name)]
  | sending endpoint attempt => [("endpoint", .plain endpoint), ("attempt", .count attempt)]
  | retrying attempt maxAttempts pause failure =>
    [("attempt", .count attempt), ("max_attempts", .count maxAttempts),
      ("delay", .plain pause.toText), ("error", .plain failure.message)]
  | callSucceeded endpoint latencyMs =>
    [("endpoint", .plain endpoint), ("latency_ms", .real latencyMs)]
  | endpointFailed endpoint failure =>
    [("endpoint", .plain endpoint), ("error", .plain failure.message)]
  | allFailed failure => [("error", .plain failure.message)]
  | endpointRecovered endpoint previous =>
    [("endpoint", .plain endpoint), ("previous", .plain previous.label)]
  | breakerOpened endpoint failures =>
    [("endpoint", .plain endpoint), ("failures", .count failures)]
  | breakerElapsed key => [("endpoint", .plain key)]
  | healthChecksDisabled | proberAlreadyRunning | proberAlreadyExited | proberStopped
  | proberReceivedShutdown | noneEligible => []

end Event

end Failover
