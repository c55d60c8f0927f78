import Failover.Decimal.Shortest

/-!
# Decimal notation

How a floating point number is written: positional within a band of exponents and scientific
outside of it.
-/

namespace Failover

/-- The band of exponents of the first digit that are written positionally, and whether a whole
number keeps one decimal place. -/
structure DecimalFormat where
  lowest : Int
  highest : Int
  keepsPoint : Bool
  /-- Whether a positive exponent is written with its sign. -/
  signsExponent : Bool
deriving DecidableEq

namespace Decimal

/-- The digits in front of and behind the point. -/
def positional (format : DecimalFormat) (d : Decimal) : String :=
  let count := (d.digits.length : Int)
  if d.exponent < 0 then
    "0." ++ String.ofList (List.replicate (-d.exponent - 1).toNat '0' ++ d.digits)
  else
    let zeros := List.replicate (d.exponent + 1 - count).toNat '0'
    let whole := d.digits.take (d.exponent + 1).toNat ++ zeros
    let fraction := d.digits.drop (d.exponent + 1).toNat
    let fraction := if fraction.isEmpty && format.keepsPoint then ['0'] else fraction
    String.ofList whole ++ (if fraction.isEmpty then "" else "." ++ String.ofList fraction)

/-- One digit in front of the point and a power of ten. -/
def scientific (format : DecimalFormat) (d : Decimal) : String :=
  let head := String.ofList (d.digits.take 1)
  let fraction := d.digits.drop 1
  let mantissa := if fraction.isEmpty then head else head ++ "." ++ String.ofList fraction
  let sign := if d.exponent < 0 then "-" else if format.signsExponent then "+" else ""
  mantissa ++ "e" ++ sign ++ toString d.exponent.natAbs

/-- The written form of a positive decimal. -/
def toText (format : DecimalFormat) (d : Decimal) : String :=
  if format.lowest ≤ d.exponent ∧ d.exponent ≤ format.highest then d.positional format
  else d.scientific format

end Decimal

/-- The written form of a finite number; zero keeps its sign. -/
def DecimalFormat.render (format : DecimalFormat) (x : Float) : String :=
  let sign := if x.toBits.toNat / 0x8000000000000000 = 1 then "-" else ""
  let magnitude := x.abs
  if magnitude == 0.0 then sign ++ (if format.keepsPoint then "0.0" else "0")
  else sign ++ (Decimal.ofFloat magnitude).toText format

end Failover
