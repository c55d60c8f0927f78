import Failover.Time.Duration

/-!
# Backoff

The pause after a failed attempt: `2 ^ attempt` units plus a random part of one unit. The factor
stops at `2 ^ 32 - 1` and every duration at the longest one.
-/

namespace Failover

namespace Backoff

/-- The largest factor of the unit. -/
def factorCap : Nat := 0xffffffff

/-- The number of units to wait after attempt `attempt`, counted from zero. -/
def factor (attempt : Nat) : Nat := if attempt < 32 then Nat.pow 2 attempt else factorCap

/-- The part of the pause that is not random. -/
def base (attempt : Nat) (unit : Duration) : Duration := unit.scale (factor attempt)

/-- The number of nanoseconds of which a random draw takes one. -/
def drawRange (unit : Duration) : Nat := min unit.nanos 0xffffffffffffffff

/-- The random part for a wanted draw, which is cut down to the range. -/
def jitter (unit : Duration) (draw : Nat) : Duration :=
  if drawRange unit = 0 then Duration.zero
  else Duration.ofNanos (min draw (drawRange unit - 1))

/-- The pause after attempt `attempt`. -/
def delay (attempt : Nat) (unit : Duration) (draw : Nat) : Duration :=
  (base attempt unit).add (jitter unit draw)

/-- The factor doubles with each attempt until it reaches its cap. -/
theorem factor_eq_min (attempt : Nat) : factor attempt = min (Nat.pow 2 attempt) factorCap := by
  unfold factor factorCap
  split
  · have : Nat.pow 2 attempt ≤ Nat.pow 2 31 :=
      Nat.pow_le_pow_right (show 0 < 2 by decide) (show attempt ≤ 31 by omega)
    have : Nat.pow 2 31 = 0x80000000 := rfl
    omega
  · have : Nat.pow 2 32 ≤ Nat.pow 2 attempt :=
      Nat.pow_le_pow_right (show 0 < 2 by decide) (show 32 ≤ attempt by omega)
    have : Nat.pow 2 32 = 0x100000000 := rfl
    omega

end Backoff

end Failover
