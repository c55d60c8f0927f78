import Failover.Time.Duration

/-!
# Wall clock times

A `Timestamp` counts seconds from the start of 1970 and nanoseconds within the second. A leap
second is written as second `60` and is kept as a second with more than `10 ^ 9` nanoseconds. The
calendar is the proleptic Gregorian one, restricted to the years `-262143` to `262142`.
-/

namespace Failover

open Time

/-- Seconds since 1970-01-01T00:00:00Z and nanoseconds within that second. -/
@[ext] structure Timestamp where
  seconds : Int
  nanos : Nat
deriving DecidableEq, Inhabited

namespace Timestamp

/-- The Gregorian date of a day counted from 1970-01-01. The year is taken to start in March, so
that the leap day is the last day of its year. -/
def civilDate (day : Int) : Int × Nat × Nat :=
  let shifted := day + 719468
  let era := Int.fdiv shifted 146097
  let dayOfEra := (shifted - era * 146097).toNat
  let yearOfEra := (dayOfEra - dayOfEra / 1460 + dayOfEra / 36524 - dayOfEra / 146096) / 365
  let dayOfYear := dayOfEra - (365 * yearOfEra + yearOfEra / 4 - yearOfEra / 100)
  let month := (5 * dayOfYear + 2) / 153
  let dayOfMonth := dayOfYear - (153 * month + 2) / 5 + 1
  let monthOfYear := if month < 10 then month + 3 else month - 9
  let year := (yearOfEra : Int) + era * 400 + (if monthOfYear ≤ 2 then 1 else 0)
  (year, monthOfYear, dayOfMonth)

/-- The first second of the calendar, at the start of the year `-262143`. -/
def firstSecond : Int := -8334601228800

/-- The last second of the calendar, at the end of the year `262142`. -/
def lastSecond : Int := 8210266876799

/-- The time `seconds` and `nanos` after the start of 1970, if the calendar has it. A second holds
more than `10 ^ 9` nanoseconds only if it is the last one of its minute. -/
def ofUnix? (seconds : Int) (nanos : Nat) : Option Timestamp :=
  if firstSecond ≤ seconds ∧ seconds ≤ lastSecond ∧
      (nanos < nanosPerSecond ∨ (nanos < 2 * nanosPerSecond ∧ seconds % 60 = 59)) then
    some ⟨seconds, nanos⟩
  else none

/-- The time `elapsed` nanoseconds after `t`. -/
def later (t : Timestamp) (elapsed : Nat) : Timestamp where
  seconds := t.seconds + ((t.nanos + elapsed) / nanosPerSecond : Nat)
  nanos := (t.nanos + elapsed) % nanosPerSecond

/-- How the zero offset from UTC is written. -/
inductive OffsetStyle where
  | letter
  | digits
deriving DecidableEq

/-- Four digits, or a sign and at least four digits outside of `0` to `9999`. -/
def yearText (year : Int) : String :=
  let digits := String.ofList (Duration.paddedDigits 4 year.natAbs)
  if 0 ≤ year ∧ year ≤ 9999 then digits
  else (if year < 0 then "-" else "+") ++ digits

/-- The fraction of a second with 0, 3, 6 or 9 digits, the fewest that lose nothing. -/
def fractionText (nanos : Nat) : String :=
  if nanos = 0 then ""
  else if nanos % 1000000 = 0 then "." ++ String.ofList (Duration.paddedDigits 3 (nanos / 1000000))
  else if nanos % 1000 = 0 then "." ++ String.ofList (Duration.paddedDigits 6 (nanos / 1000))
  else "." ++ String.ofList (Duration.paddedDigits 9 nanos)

/-- Whether the time lies in a leap second. -/
def isLeap (t : Timestamp) : Bool := nanosPerSecond ≤ t.nanos

/-- The part of the second that has passed, in nanoseconds. -/
def subsecond (t : Timestamp) : Nat := if t.isLeap then t.nanos - nanosPerSecond else t.nanos

/-- The date and time to the second, such as `2024-01-01T00:00:00`. -/
def secondText (t : Timestamp) : String :=
  let two (n : Nat) : String := String.ofList (Duration.paddedDigits 2 n)
  let day := Int.fdiv t.seconds 86400
  let secondOfDay := (t.seconds - day * 86400).toNat
  let (year, month, dayOfMonth) := civilDate day
  let second := secondOfDay % 60 + (if t.isLeap then 1 else 0)
  yearText year ++ "-" ++ two month ++ "-" ++ two dayOfMonth ++ "T" ++
    two (secondOfDay / 3600) ++ ":" ++ two (secondOfDay / 60 % 60) ++ ":" ++ two second

/-- The date and time with their offset, such as `2024-01-01T00:00:00.200Z`. -/
def toText (style : OffsetStyle) (t : Timestamp) : String :=
  t.secondText ++ fractionText t.subsecond ++
    (match style with
      | .letter => "Z"
      | .digits => "+00:00")

/-- The date and time to the microsecond, such as `2024-01-01T00:00:00.200000Z`. -/
def toMicroText (t : Timestamp) : String :=
  t.secondText ++ "." ++ String.ofList (Duration.paddedDigits 6 (t.subsecond / 1000)) ++ "Z"

end Timestamp

end Failover
