/-!
# Health of an endpoint

An endpoint that was never observed is `unknown`, after a success it is `healthy`, and after a
failure it is `degraded` or, from the breaker threshold on, `unhealthy`.
-/

namespace Failover

/-- The health of an endpoint. -/
inductive HealthStatus where
  | unknown
  | healthy
  | degraded
  | unhealthy
deriving DecidableEq, Inhabited

namespace HealthStatus

/-- The status in one word. -/
def label : HealthStatus → String
  | unknown => "unknown"
  | healthy => "healthy"
  | degraded => "degraded"
  | unhealthy => "unhealthy"

/-- The code of the status on a gauge. -/
def gauge : HealthStatus → Float
  | unknown => 0.0
  | healthy => 1.0
  | degraded => 2.0
  | unhealthy => 3.0

/-- What nothing is known of has the code 0. -/
@[simp] theorem gauge_unknown : gauge unknown = 0.0 := rfl

/-- The code of a healthy endpoint is 1. -/
@[simp] theorem gauge_healthy : gauge healthy = 1.0 := rfl

/-- The code of a degraded endpoint is 2. -/
@[simp] theorem gauge_degraded : gauge degraded = 2.0 := rfl

/-- The code of an unhealthy endpoint is 3. -/
@[simp] theorem gauge_unhealthy : gauge unhealthy = 3.0 := rfl

/-- The status with this label; any other label means that nothing is known. -/
def ofLabel (s : String) : HealthStatus :=
  if s = "healthy" then healthy
  else if s = "degraded" then degraded
  else if s = "unhealthy" then unhealthy
  else unknown

/-- A status is found again by its label. -/
@[simp] theorem ofLabel_label (s : HealthStatus) : ofLabel s.label = s := by
  cases s <;> decide

end HealthStatus

end Failover
