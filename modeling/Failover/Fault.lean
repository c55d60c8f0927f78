/-!
# Faults

A `Fault` is an abnormal end of a computation, as opposed to a failure that the computation reports.
It may carry a text.
-/

namespace Failover

/-- An abnormal end, with its text if it has one. -/
structure Fault where
  text : Option String
deriving DecidableEq, Inhabited

namespace Fault

/-- The fault of a clock that cannot show the instant asked for. -/
def clockOverflow : Fault := ⟨some "overflow when adding duration to instant"⟩

end Fault

end Failover
