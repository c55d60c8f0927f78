import Failover.Config.Schema
import Failover.Error
import Failover.Text.Blank

/-!
# Settings

What applies to a manager as a whole.
-/

namespace Failover

/-- The settings of a manager. -/
structure Settings where
  healthChecksEnabled : Bool
  healthCheckInterval : Duration
  probeMethod : String
  /-- How long stopping waits for the prober. -/
  stopTimeout : Duration
  maxRetries : UInt32
  backoffUnit : Duration
  breakerThreshold : UInt32
  breakerTimeout : Duration
deriving DecidableEq

namespace Settings

/-- The settings of a configuration that leaves everything out. -/
def standard : Settings where
  healthChecksEnabled := true
  healthCheckInterval := Duration.ofSeconds 30
  probeMethod := "getblockcount"
  stopTimeout := Duration.ofSeconds 5
  maxRetries := 3
  backoffUnit := Duration.ofSeconds 1
  breakerThreshold := 5
  breakerTimeout := Duration.ofSeconds 60

instance : Inhabited Settings := ⟨standard⟩

/-- The reason why the settings cannot run. Without health checks there is none. -/
def problem? (s : Settings) : Option SettingsProblem :=
  if s.healthChecksEnabled then
    if s.healthCheckInterval.isZero then some .zeroInterval
    else if Text.isBlank s.probeMethod then some .blankProbeMethod
    else none
  else none

/-- Refuses settings that cannot run. -/
def validate (s : Settings) : Except Error Unit :=
  match s.problem? with
  | some problem => .error (.invalidSettings problem)
  | none => .ok ()

/-- The settings that a configuration describes. -/
def ofConfig (c : Config) : Settings where
  healthChecksEnabled := c.healthCheck.enabled
  healthCheckInterval := Duration.ofMillis c.healthCheck.intervalMs.toNat
  probeMethod := c.healthCheck.probeMethod
  stopTimeout := Duration.ofMillis c.healthCheck.stopTimeoutMs.toNat
  maxRetries := c.retries.maxRetries
  backoffUnit := Duration.ofMillis c.retries.backoffUnitMs.toNat
  breakerThreshold := c.breaker.threshold
  breakerTimeout := Duration.ofMillis c.breaker.timeoutMs.toNat

/-- The settings in diagnostic form. -/
def toText (s : Settings) : String :=
  Text.record "FailoverSettings"
    [("health_checks_enabled", Text.truth s.healthChecksEnabled),
      ("health_check_interval", s.healthCheckInterval.toText),
      ("probe_method", Text.quoted s.probeMethod),
      ("stop_timeout", s.stopTimeout.toText),
      ("max_retries", toString s.maxRetries.toNat),
      ("backoff_unit", s.backoffUnit.toText),
      ("breaker_threshold", toString s.breakerThreshold.toNat),
      ("breaker_timeout", s.breakerTimeout.toText)]

end Settings

end Failover
