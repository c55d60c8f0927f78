/-!
# The shortest decimal that reads back

A positive finite binary floating point number stands for every real that rounds to it. This module
finds the decimal with the fewest digits among them, and of those the one nearest to the number
itself; of two equally near ones the one with an even last digit. All arithmetic is exact.
-/

namespace Failover

/-- A positive decimal: its significant digits and the power of ten of the first of them. -/
structure Decimal where
  digits : List Char
  exponent : Int
deriving DecidableEq, Inhabited

namespace Decimal

/-- A positive rational `numerator / denominator` with the reals around it that round to it. -/
structure Target where
  lower : Nat
  value : Nat
  upper : Nat
  denominator : Nat
  /-- Whether the two ends round to the value too. -/
  closed : Bool

/-- The significand and the binary exponent of a finite positive number. -/
def binaryParts (x : Float) : Nat × Int :=
  let bits : Nat := x.toBits.toNat
  let fraction : Nat := bits % 0x10000000000000
  let biased : Nat := bits / 0x10000000000000 % 0x800
  if biased = 0 then (fraction, -1074) else (fraction + 0x10000000000000, (biased : Int) - 1075)

/-- The rounding interval of a finite positive number. The gap below a power of two is half as wide
as the gap above it, except at the least normal number. -/
def Target.ofFloat (x : Float) : Target :=
  let (significand, exponent) := binaryParts x
  let below := if significand = 0x10000000000000 ∧ -1074 < exponent then 1 else 2
  let unit := Nat.pow 2 (exponent - 2).toNat
  { lower := (4 * significand - below) * unit
    value := 4 * significand * unit
    upper := (4 * significand + 2) * unit
    denominator := Nat.pow 2 (2 - exponent).toNat
    closed := significand % 2 = 0 }

/-- The number of decimal digits of `n`, none for zero. -/
def digitCount (n : Nat) : Nat := if n = 0 then 0 else (Nat.toDigits 10 n).length

/-- The power of ten of the first digit of the value. -/
def Target.exponent (t : Target) : Int :=
  if t.denominator ≤ t.value then (digitCount (t.value / t.denominator) : Int) - 1
  else -(digitCount ((t.denominator + t.value - 1) / t.value - 1) : Int)

/-- Whether the decimal `n * 10 ^ place` rounds to the value. -/
def Target.holds (t : Target) (n : Nat) (place : Int) : Bool :=
  let scaled := n * Nat.pow 10 place.toNat * t.denominator
  let power := Nat.pow 10 (-place).toNat
  if t.closed then t.lower * power ≤ scaled && scaled ≤ t.upper * power
  else t.lower * power < scaled && scaled < t.upper * power

/-- The nearest multiple of `10 ^ place` that rounds to the value, if one does. -/
def Target.candidate? (t : Target) (place : Int) : Option Nat :=
  let numerator := t.value * Nat.pow 10 (-place).toNat
  let denominator := t.denominator * Nat.pow 10 place.toNat
  let below := numerator / denominator
  let rest := numerator % denominator
  match t.holds below place, t.holds (below + 1) place with
  | true, false => some below
  | false, true => some (below + 1)
  | false, false => none
  | true, true =>
    if 2 * rest < denominator then some below
    else if denominator < 2 * rest then some (below + 1)
    else some (if below % 2 = 0 then below else below + 1)

/-- The first of the grids with `count`, `count + 1`, … digits that has a candidate. -/
def Target.search (t : Target) (exponent : Int) : Nat → Nat → Nat × Int
  | 0, _ => (0, 0)
  | fuel + 1, count =>
    let place := exponent - (count : Int) + 1
    match t.candidate? place with
    | some n => (n, place)
    | none => t.search exponent fuel (count + 1)

/-- The shortest decimal of a finite positive number. Seventeen digits always suffice. -/
def ofFloat (x : Float) : Decimal :=
  let t := Target.ofFloat x
  let (n, place) := t.search t.exponent 17 1
  let digits := Nat.toDigits 10 n
  let significant := (digits.reverse.dropWhile (· == '0')).reverse
  { digits := significant, exponent := place + (digits.length : Int) - 1 }

end Decimal

end Failover
