import Failover.Endpoint
import Failover.Error

/-!
# The registry

The endpoints in the order in which calls try them: ascending in priority, and as configured among
endpoints of one priority. The order never changes, so an endpoint is addressed by its index. A
registry is never empty.
-/

namespace Failover

/-- A non-empty list of endpoints, ascending in priority. -/
structure Registry where
  endpoints : List Endpoint
  nonempty : endpoints ≠ []
  ordered : endpoints.Pairwise fun a b => a.priority ≤ b.priority

namespace Registry

/-- The order by priority. -/
def precedes (a b : Endpoint) : Bool := a.priority ≤ b.priority

/-- The endpoints in the order of their priorities; those of one priority stay as they are. -/
def sort (endpoints : List Endpoint) : List Endpoint := endpoints.mergeSort precedes

/-- Sorting endpoints neither drops nor adds any. -/
theorem sort_perm (endpoints : List Endpoint) : (sort endpoints).Perm endpoints :=
  List.mergeSort_perm _ _

/-- Sorted endpoints ascend in priority. -/
theorem sort_ordered (endpoints : List Endpoint) :
    (sort endpoints).Pairwise fun a b => a.priority ≤ b.priority := by
  have h := @List.pairwise_mergeSort _ precedes
    (by intro a b c; simp only [precedes, decide_eq_true_eq]; omega)
    (by intro a b; simp only [precedes, Bool.or_eq_true, decide_eq_true_eq]; omega) endpoints
  exact h.imp (by intro a b; simp [precedes])

/-- The registry of the configured endpoints; there has to be one. -/
def ofConfigs (configs : List EndpointConfig) : Except Error Registry :=
  if h : configs = [] then .error .noEndpoints
  else .ok {
    endpoints := sort (configs.map Endpoint.ofConfig)
    nonempty := by
      intro hnil
      have := (sort_perm (configs.map Endpoint.ofConfig)).length_eq
      rw [hnil] at this
      exact h (by simpa using this.symm)
    ordered := sort_ordered _ }

/-- The number of endpoints. -/
def size (r : Registry) : Nat := r.endpoints.length

/-- Whether there is no endpoint, which is never so. -/
def isEmpty (r : Registry) : Bool := r.endpoints.isEmpty

/-- The endpoint at an index. -/
def get? (r : Registry) (index : Nat) : Option Endpoint := r.endpoints[index]?

/-- Whether an index is that of the last endpoint. -/
def isLast (r : Registry) (index : Nat) : Bool := index + 1 = r.size

/-- The endpoint that is tried first. -/
def primary (r : Registry) : Endpoint := r.endpoints.head r.nonempty

/-- A registry is never empty. -/
@[simp] theorem isEmpty_eq_false (r : Registry) : r.isEmpty = false := by
  simp [isEmpty, r.nonempty]

/-- There is a first index in every registry. -/
theorem size_pos (r : Registry) : 0 < r.size := List.length_pos_iff.mpr r.nonempty

end Registry

end Failover
