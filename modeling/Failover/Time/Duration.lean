/-!
# Spans of time

A `Duration` is a span with nanosecond resolution, shorter than `2 ^ 64` seconds. The bound is
part of the type, so addition and multiplication saturate at `Duration.max` instead of growing
past it. The written form picks the largest unit that leaves a whole part and then prints the
fraction without trailing zeros.
-/

namespace Failover

namespace Time

/-- Nanoseconds in a second. -/
def nanosPerSecond : Nat := 1000000000

/-- Nanoseconds in a millisecond. -/
def nanosPerMilli : Nat := 1000000

/-- The least number of nanoseconds that is no longer a duration. -/
def durationLimit : Nat := 0x10000000000000000 * nanosPerSecond

end Time

open Time

/-- A span of time in nanoseconds, shorter than `2 ^ 64` seconds. -/
@[ext] structure Duration where
  nanos : Nat
  nanos_lt : nanos < durationLimit
deriving DecidableEq

namespace Duration

/-- The span of `n` nanoseconds, or the longest span when `n` is out of range. -/
def ofNanos (n : Nat) : Duration where
  nanos := min n (durationLimit - 1)
  nanos_lt := by
    have : 0 < durationLimit := by decide
    omega

/-- The span of `n` milliseconds. -/
def ofMillis (n : Nat) : Duration := ofNanos (n * nanosPerMilli)

/-- The span of `n` seconds. -/
def ofSeconds (n : Nat) : Duration := ofNanos (n * nanosPerSecond)

/-- The empty span. -/
def zero : Duration := ofNanos 0

instance : Inhabited Duration := ⟨zero⟩

/-- The longest span. -/
def longest : Duration := ofNanos (durationLimit - 1)

/-- A span out of range is cut off at the longest one. -/
theorem nanos_ofNanos (n : Nat) : (ofNanos n).nanos = min n (durationLimit - 1) := rfl

@[simp] theorem nanos_zero : zero.nanos = 0 := by decide

/-- A span in range is kept as it is. -/
theorem nanos_ofNanos_of_lt {n : Nat} (h : n < durationLimit) : (ofNanos n).nanos = n := by
  rw [nanos_ofNanos]; omega

/-- Whole seconds. -/
def seconds (d : Duration) : Nat := d.nanos / nanosPerSecond

/-- Nanoseconds beyond the whole seconds. -/
def subsecNanos (d : Duration) : Nat := d.nanos % nanosPerSecond

/-- Whole milliseconds. -/
def millis (d : Duration) : Nat := d.nanos / nanosPerMilli

/-- The number of milliseconds a timer of this span takes: a started millisecond counts whole. -/
def timerMillis (d : Duration) : Nat := (d.nanos + (nanosPerMilli - 1)) / nanosPerMilli

/-- Whether the span is empty. -/
def isZero (d : Duration) : Bool := d.nanos == 0

/-- The sum, or the longest span when the sum is out of range. -/
def add (d e : Duration) : Duration := ofNanos (d.nanos + e.nanos)

/-- The `k`-fold span, or the longest span when that is out of range. -/
def scale (d : Duration) (k : Nat) : Duration := ofNanos (d.nanos * k)

/-- A sum of spans is exact up to the longest span. -/
theorem nanos_add (d e : Duration) :
    (d.add e).nanos = min (d.nanos + e.nanos) (durationLimit - 1) := rfl

/-- A multiple of a span is exact up to the longest span. -/
theorem nanos_scale (d : Duration) (k : Nat) :
    (d.scale k).nanos = min (d.nanos * k) (durationLimit - 1) := rfl

/-- Seconds as a floating point number: the whole seconds plus the rounded fraction. -/
def toSeconds (d : Duration) : Float :=
  Float.ofNat d.seconds + Float.ofNat d.subsecNanos / Float.ofNat nanosPerSecond

/-- Milliseconds as a floating point number. -/
def toMillis (d : Duration) : Float := d.toSeconds * 1000.0

/-- The decimal digits of `n`, filled up with zeros on the left to `width`. -/
def paddedDigits (width n : Nat) : List Char :=
  let digits := Nat.toDigits 10 n
  List.replicate (width - digits.length) '0' ++ digits

/-- `amount` units of which `scale` (a power of ten with `width` zeros) make one whole: the whole
part, then a point and the fraction unless it is zero. -/
def amountText (amount scale width : Nat) : String :=
  let whole := toString (amount / scale)
  let fraction := (paddedDigits width (amount % scale)).reverse.dropWhile (· == '0')
  if fraction.isEmpty then whole else whole ++ "." ++ String.ofList fraction.reverse

/-- The written form: `30s`, `1.5s`, `20.5ms`, `1.001µs`, `0ns`. -/
def toText (d : Duration) : String :=
  if nanosPerSecond ≤ d.nanos then amountText d.nanos nanosPerSecond 9 ++ "s"
  else if nanosPerMilli ≤ d.nanos then amountText d.nanos nanosPerMilli 6 ++ "ms"
  else if 1000 ≤ d.nanos then amountText d.nanos 1000 3 ++ "µs"
  else toString d.nanos ++ "ns"

end Duration

end Failover
