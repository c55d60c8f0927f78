import Failover.Time.Duration

/-!
# Instants of a monotonic clock

An `Instant` counts nanoseconds on a clock that never goes back. The clock has room for
`2 ^ 63` seconds; adding a duration that leads beyond them has no result.
-/

namespace Failover

open Time

/-- A reading of the monotonic clock, in nanoseconds. -/
@[ext] structure Instant where
  nanos : Nat
deriving DecidableEq, Inhabited

namespace Instant

/-- The least number of nanoseconds that the clock cannot show. -/
def limit : Nat := 0x8000000000000000 * nanosPerSecond

/-- The instant `d` after `t`, if the clock can show it. -/
def after? (t : Instant) (d : Duration) : Option Instant :=
  if t.nanos + d.nanos < limit then some ⟨t.nanos + d.nanos⟩ else none

/-- `t` lies before `u`. -/
def before (t u : Instant) : Bool := t.nanos < u.nanos

/-- There is a later instant exactly as far as the clock can show it. -/
theorem after?_eq_some_iff {t u : Instant} {d : Duration} :
    t.after? d = some u ↔ t.nanos + d.nanos < limit ∧ u.nanos = t.nanos + d.nanos := by
  unfold after?
  constructor
  · intro h
    split at h
    · cases h; exact ⟨‹_›, rfl⟩
    · cases h
  · rintro ⟨h, hu⟩
    rw [if_pos h]
    exact congrArg some (Instant.ext hu.symm)

/-- Beyond the end of the clock there is no instant. -/
theorem after?_eq_none_iff {t : Instant} {d : Duration} :
    t.after? d = none ↔ limit ≤ t.nanos + d.nanos := by
  unfold after?
  split <;> simp <;> omega

end Instant

end Failover
