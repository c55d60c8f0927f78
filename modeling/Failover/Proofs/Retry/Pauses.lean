import Failover.Backoff
import Mathlib.Algebra.Order.Ring.Nat

/-!
# Pauses between attempts

A pause is its base, a power of two in units, and a jitter shorter than one unit. Three limits cut
it off: the number of units stops at `2 ^ 32 - 1`, spans of time at the longest one, and the jitter
at the largest number that a draw can give. None of them puts the pauses out of order. One attempt
later the base has grown by a unit at least as long as its factor grows (`factor_lt_succ`), which is
more than any jitter.
-/

namespace Failover

/-- The longest span is the last one in range. -/
lemma Duration.nanos_longest : longest.nanos = Time.durationLimit - 1 := by
  rw [longest, nanos_ofNanos, min_self]

/-- No span is longer than the longest one. -/
lemma Duration.nanos_le_longest (d : Duration) : d.nanos ≤ longest.nanos := by
  rw [nanos_longest]
  exact Nat.le_sub_one_of_lt d.nanos_lt

namespace Backoff

variable {attempt later : Nat} {unit longer : Duration}

/-! ## The base -/

/-- Later attempts have no smaller factor. -/
lemma factor_mono (h : attempt ≤ later) : factor attempt ≤ factor later := by
  rw [factor_eq_min, factor_eq_min]
  exact min_le_min_right factorCap (Nat.pow_le_pow_right Nat.two_pos h)

/-- The number of units grows as long as it has not come to its limit. -/
lemma factor_lt_succ (h : attempt < 32) : factor attempt < factor (attempt + 1) := by
  have hpow : Nat.pow 2 attempt ≤ Nat.pow 2 31 :=
    Nat.pow_le_pow_right Nat.two_pos (Nat.le_of_lt_succ h)
  have htop : Nat.pow 2 31 = 0x80000000 := rfl
  have hpos : 0 < Nat.pow 2 attempt := Nat.pow_pos Nat.two_pos
  have hnext : Nat.pow 2 (attempt + 1) = Nat.pow 2 attempt * 2 := rfl
  rw [factor_eq_min, factor_eq_min, hnext, factorCap]
  omega

/-- A pause without jitter is the unit times the factor, cut off at the longest span. -/
lemma nanos_base (attempt : Nat) (unit : Duration) :
    (base attempt unit).nanos = min (unit.nanos * factor attempt) Duration.longest.nanos := by
  rw [base, Duration.nanos_scale, Duration.nanos_longest]

/-- A pause without jitter grows with the attempt and with the unit. -/
lemma nanos_base_mono (hattempt : attempt ≤ later) (hunit : unit.nanos ≤ longer.nanos) :
    (base attempt unit).nanos ≤ (base later longer).nanos := by
  rw [nanos_base, nanos_base]
  exact min_le_min_right _ (Nat.mul_le_mul hunit (factor_mono hattempt))

/-! ## The jitter -/

/-- Jitter is drawn from no more than the unit. -/
lemma drawRange_le (unit : Duration) : drawRange unit ≤ unit.nanos := Nat.min_le_left _ _

/-- There is something to draw from exactly if the unit is not empty. -/
lemma drawRange_pos_iff : 0 < drawRange unit ↔ 0 < unit.nanos := by
  unfold drawRange
  omega

/-- The jitter is the draw, or the last number of the range if the draw is beyond it. -/
lemma nanos_jitter (unit : Duration) (draw : Nat) :
    (jitter unit draw).nanos = min draw (drawRange unit - 1) := by
  have hrange := drawRange_le unit
  have hunit := unit.nanos_lt
  unfold jitter
  split
  case isTrue hzero => rw [hzero, Duration.nanos_zero, Nat.zero_sub, Nat.min_zero]
  case isFalse =>
    rw [Duration.nanos_ofNanos_of_lt]
    omega

/-- The jitter is shorter than the unit. -/
lemma nanos_jitter_lt (hunit : 0 < unit.nanos) (draw : Nat) :
    (jitter unit draw).nanos < unit.nanos := by
  have hpos := drawRange_pos_iff.mpr hunit
  have hrange := drawRange_le unit
  rw [nanos_jitter]
  omega

/-- Without a unit there is no jitter. -/
lemma nanos_jitter_of_zero (hunit : unit.nanos = 0) (draw : Nat) :
    (jitter unit draw).nanos = 0 := by
  have hrange := drawRange_le unit
  rw [nanos_jitter]
  omega

/-! ## The pause -/

/-- A pause is its base and its jitter together, cut off at the longest span. -/
lemma nanos_delay (attempt : Nat) (unit : Duration) (draw : Nat) :
    (delay attempt unit draw).nanos =
      min ((base attempt unit).nanos + (jitter unit draw).nanos) Duration.longest.nanos := by
  rw [delay, Duration.nanos_add, Duration.nanos_longest]

/-- Jitter makes no pause shorter. -/
lemma nanos_base_le_delay (attempt : Nat) (unit : Duration) (draw : Nat) :
    (base attempt unit).nanos ≤ (delay attempt unit draw).nanos := by
  rw [nanos_delay]
  exact le_min (Nat.le_add_right _ _) (Duration.nanos_le_longest _)

/-- A pause is no longer than the base of the next one: the base grows by a unit, and the jitter is
shorter. -/
lemma nanos_delay_le_base_succ (h : attempt < 32) (unit : Duration) (draw : Nat) :
    (delay attempt unit draw).nanos ≤ (base (attempt + 1) unit).nanos := by
  have hjitter : (jitter unit draw).nanos ≤ unit.nanos := by
    rcases Nat.eq_zero_or_pos unit.nanos with hzero | hpos
    · rw [nanos_jitter_of_zero hzero]
      exact Nat.zero_le _
    · exact (nanos_jitter_lt hpos draw).le
  rw [nanos_delay, nanos_base]
  refine min_le_min_right _ ?_
  calc (base attempt unit).nanos + (jitter unit draw).nanos
      ≤ unit.nanos * factor attempt + unit.nanos := by
        rw [nanos_base]
        exact Nat.add_le_add (min_le_left _ _) hjitter
    _ = unit.nanos * (factor attempt + 1) := (Nat.mul_succ _ _).symm
    _ ≤ unit.nanos * factor (attempt + 1) := Nat.mul_le_mul_left _ (factor_lt_succ h)

/-! ## The law -/

/-- What the pause after an attempt comes to, whatever is drawn for it. -/
structure PauseLaw (attempt : Nat) (unit : Duration) : Prop where
  base_eq : (base attempt unit).nanos =
    min (unit.nanos * min (2 ^ attempt) (2 ^ 32 - 1)) Duration.longest.nanos
  /-- The base grows with the attempt and with the unit. -/
  base_mono : ∀ later longer, attempt ≤ later → unit.nanos ≤ longer.nanos →
    (base attempt unit).nanos ≤ (base later longer).nanos
  /-- There is something to draw from exactly if the unit is not zero, and then every number that
  may be drawn is the jitter. -/
  draws : (0 < drawRange unit ↔ 0 < unit.nanos) ∧
    ∀ draw < drawRange unit, (jitter unit draw).nanos = draw
  delay_eq : ∀ draw, ∃ j, (0 < unit.nanos → j < unit.nanos) ∧ (unit.nanos = 0 → j = 0) ∧
    (delay attempt unit draw).nanos =
      min ((base attempt unit).nanos + j) Duration.longest.nanos
  /-- The pause is shorter than a unit more than its base. There is none for the unit zero. -/
  delay_lt : ∀ draw, (0 < unit.nanos →
      (delay attempt unit draw).nanos < (base attempt unit).nanos + unit.nanos) ∧
    (unit.nanos = 0 → (delay attempt unit draw).nanos = 0)
  /-- No draw makes the pause longer than the next one, as long as the factor still grows. -/
  delay_le_next : attempt < 32 → ∀ draw draw',
    (delay attempt unit draw).nanos ≤ (delay (attempt + 1) unit draw').nanos

/-- **Pauses grow from attempt to attempt.** The pause after an attempt is `2 ^ attempt` units, but
no more than `2 ^ 32 - 1` of them, plus a jitter of less than one unit, and it stops at the longest
span of time. For the first 32 attempts no jitter puts it beyond the next pause. -/
theorem pauses_grow_despite_jitter (attempt : Nat) (unit : Duration) : PauseLaw attempt unit where
  base_eq := by
    rw [nanos_base, factor_eq_min]
    rfl
  base_mono := fun _ _ hattempt hunit => nanos_base_mono hattempt hunit
  draws := by
    refine ⟨drawRange_pos_iff, ?_⟩
    intro draw hdraw
    rw [nanos_jitter]
    omega
  delay_eq := fun draw =>
    ⟨_, fun hunit => nanos_jitter_lt hunit draw, fun hunit => nanos_jitter_of_zero hunit draw,
      nanos_delay attempt unit draw⟩
  delay_lt := by
    intro draw
    have hle : (delay attempt unit draw).nanos ≤
        (base attempt unit).nanos + (jitter unit draw).nanos := by
      rw [nanos_delay]
      exact min_le_left _ _
    constructor
    · intro hunit
      have hjitter := nanos_jitter_lt hunit draw
      omega
    · intro hunit
      have hjitter := nanos_jitter_of_zero hunit draw
      have hbase : (base attempt unit).nanos = 0 := by
        rw [nanos_base, hunit, Nat.zero_mul, Nat.zero_min]
      omega
  delay_le_next := fun h draw draw' =>
    (nanos_delay_le_base_succ h unit draw).trans (nanos_base_le_delay (attempt + 1) unit draw')

end Backoff

end Failover
