import Failover.Health.Status

/-!
# Eligibility

Whether a call may try an endpoint. An open breaker always excludes it. An unhealthy status excludes
it too, unless it is the last endpoint: one more failed attempt is better than refusing every one.
-/

namespace Failover

/-- Whether a call may try an endpoint, and if not, why. -/
inductive Eligibility where
  | eligible
  | breakerOpen
  | unhealthy
deriving DecidableEq, Inhabited

namespace Eligibility

/-- The verdict on an endpoint. -/
def judge (status : HealthStatus) (breakerOpen isLast : Bool) : Eligibility :=
  if breakerOpen then .breakerOpen
  else if status = .unhealthy ∧ isLast = false then .unhealthy
  else .eligible

/-- Whether the endpoint may be tried. -/
def allows (e : Eligibility) : Bool := e = .eligible

/-- The verdict as a label. -/
def label : Eligibility → String
  | eligible => "eligible"
  | breakerOpen => "breaker_open"
  | unhealthy => "unhealthy"

/-- The verdict as a name. -/
def name : Eligibility → String
  | eligible => "Eligible"
  | breakerOpen => "BreakerOpen"
  | unhealthy => "Unhealthy"

/-- An endpoint is eligible if its breaker is closed and it is not unhealthy, or the last one. -/
theorem judge_eq_eligible_iff {s : HealthStatus} {b l : Bool} :
    judge s b l = .eligible ↔ b = false ∧ (s ≠ .unhealthy ∨ l = true) := by
  unfold judge
  cases b <;> cases l <;> cases s <;> simp

/-- An open breaker excludes an endpoint whatever else is known of it. -/
theorem judge_eq_breakerOpen_iff {s : HealthStatus} {b l : Bool} :
    judge s b l = .breakerOpen ↔ b = true := by
  unfold judge
  cases b <;> cases l <;> cases s <;> simp

end Eligibility

end Failover
