import Failover.Health.Status
import Failover.Time.Timestamp

/-!
# Health records

What is kept about one endpoint: its status, when it last succeeded and failed, how often it failed
in a row, its request counters and its smoothed latency. `HealthRecord.succeed` and
`HealthRecord.fail` are the only transitions.
-/

namespace Failover

/-- The bookkeeping for one endpoint. -/
structure HealthRecord where
  status : HealthStatus
  lastSuccess : Option Timestamp
  lastFailure : Option Timestamp
  consecutiveFailures : Nat
  totalRequests : Nat
  successfulRequests : Nat
  /-- Smoothed latency in milliseconds, zero before the first sample. -/
  avgLatencyMs : Float
deriving DecidableEq

namespace HealthRecord

/-- The record of an endpoint that was never observed. -/
def initial : HealthRecord := ⟨.unknown, none, none, 0, 0, 0, 0.0⟩

instance : Inhabited HealthRecord := ⟨initial⟩

/-- The largest number of failures in a row that is counted. -/
def failureCap : Nat := 0xffffffff

/-- The weight of the old average in the new one. -/
def latencyRetain : Float := 0.9

/-- The average after one more sample. The first sample is taken as it is. -/
def smooth (average sample : Float) : Float :=
  if average == 0.0 then sample
  else average * latencyRetain + sample * (1.0 - latencyRetain)

/-- A first sample is taken as it is. -/
theorem smooth_of_zero {average : Float} (h : (average == 0.0) = true) (sample : Float) :
    smooth average sample = sample :=
  if_pos h

/-- Any other average keeps nine tenths of itself and takes in a tenth of the sample. -/
theorem smooth_of_ne_zero {average : Float} (h : (average == 0.0) = false) (sample : Float) :
    smooth average sample = average * 0.9 + sample * (1.0 - 0.9) :=
  if_neg (Bool.eq_false_iff.mp h)

/-- Takes in the latency of one success. -/
def addLatency (r : HealthRecord) (latency : Duration) : HealthRecord :=
  { r with avgLatencyMs := smooth r.avgLatencyMs latency.toMillis }

/-- The record after a success. -/
def succeed (r : HealthRecord) (latency : Duration) (wall : Timestamp) : HealthRecord :=
  { r with
    status := .healthy
    lastSuccess := some wall
    consecutiveFailures := 0
    avgLatencyMs := smooth r.avgLatencyMs latency.toMillis }

/-- After a success an endpoint is healthy. -/
@[simp] theorem succeed_status (r : HealthRecord) (d : Duration) (w : Timestamp) :
    (r.succeed d w).status = .healthy := rfl

/-- A success ends a row of failures. -/
@[simp] theorem succeed_consecutiveFailures (r : HealthRecord) (d : Duration) (w : Timestamp) :
    (r.succeed d w).consecutiveFailures = 0 := rfl

/-- The number of failures in a row after one more. -/
def nextFailures (n : Nat) : Nat := min (n + 1) failureCap

/-- The status after so many failures in a row. -/
def failedStatus (threshold failures : Nat) : HealthStatus :=
  if threshold ≤ failures then .unhealthy else .degraded

/-- From the threshold on a failure leaves the endpoint unhealthy. -/
theorem failedStatus_eq_unhealthy_iff {threshold failures : Nat} :
    failedStatus threshold failures = .unhealthy ↔ threshold ≤ failures := by
  unfold failedStatus
  split <;> simp [*]

/-- The record after a failure. -/
def fail (r : HealthRecord) (threshold : Nat) (wall : Timestamp) : HealthRecord :=
  { r with
    status := failedStatus threshold (nextFailures r.consecutiveFailures)
    lastFailure := some wall
    consecutiveFailures := nextFailures r.consecutiveFailures }

/-- The share of requests that succeeded, zero if there were none. -/
def successRate (r : HealthRecord) : Float :=
  if r.totalRequests = 0 then 0.0
  else Float.ofNat r.successfulRequests / Float.ofNat r.totalRequests

end HealthRecord

end Failover
