import Failover.Time.Instant
import Failover.Time.Timestamp

/-!
# Clocks

A `Reading` is what the two clocks show at one moment: the monotonic clock, against which breakers
are timed, and the wall clock, which records show. A `Clock` says what both showed at its origin;
afterwards they run at the same pace.
-/

namespace Failover

open Time

/-- What the monotonic clock and the wall clock show at one moment. -/
@[ext] structure Reading where
  instant : Instant
  wall : Timestamp
deriving DecidableEq, Inhabited

/-- Two clocks that run at the same pace from `origin`. -/
structure Clock where
  origin : Reading
deriving DecidableEq, Inhabited

namespace Clock

/-- The reading `elapsed` nanoseconds after the origin. -/
def after (c : Clock) (elapsed : Nat) : Reading where
  instant := ⟨c.origin.instant.nanos + elapsed⟩
  wall := c.origin.wall.later elapsed

/-- The reading `elapsed` milliseconds after the origin. -/
def afterMillis (c : Clock) (elapsed : Nat) : Reading := c.after (elapsed * nanosPerMilli)

/-- The clock whose monotonic side starts at a million seconds, at the start of 2024. -/
def standard : Clock := ⟨⟨⟨1000000 * nanosPerSecond⟩, ⟨1704067200, 0⟩⟩⟩

/-- A clock shows its origin and what has gone by since. -/
@[simp] theorem after_instant_nanos (c : Clock) (elapsed : Nat) :
    (c.after elapsed).instant.nanos = c.origin.instant.nanos + elapsed := rfl

/-- Clocks do not go back. -/
theorem instant_after_mono (c : Clock) {s t : Nat} (h : s ≤ t) :
    (c.after s).instant.nanos ≤ (c.after t).instant.nanos := by
  simp only [after_instant_nanos]; omega

end Clock

end Failover
