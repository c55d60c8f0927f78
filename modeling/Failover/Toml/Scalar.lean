import Failover.Config.Document

/-!
# Unquoted scalars of TOML

Numbers, truth values and moments in time. Digits of a number may be grouped by single underscores.
An integer has 64 bits and a sign; only decimal ones may be signed.
-/

namespace Failover

namespace Toml

/-- Whether a character is a digit of a base of at most sixteen. -/
def isDigitIn (base : Nat) (c : Char) : Bool :=
  let n := c.toNat
  if 48 ≤ n ∧ n ≤ 57 then n - 48 < base
  else if 97 ≤ n ∧ n ≤ 102 then n - 87 < base
  else if 65 ≤ n ∧ n ≤ 70 then n - 55 < base
  else false

/-- The value of a digit. -/
def digitOf (c : Char) : Nat :=
  let n := c.toNat
  if n ≤ 57 then n - 48 else if n ≤ 70 then n - 55 else n - 87

/-- The digits without the underscores between them. -/
def ungroup? (base : Nat) : List Char → Option (List Char)
  | [] => none
  | [c] => if isDigitIn base c then some [c] else none
  | c :: '_' :: rest =>
    if isDigitIn base c then (ungroup? base rest).map (c :: ·) else none
  | c :: rest => if isDigitIn base c then (ungroup? base rest).map (c :: ·) else none

/-- The number that digits stand for. -/
def numberOf (base : Nat) (digits : List Char) : Nat :=
  digits.foldl (fun n c => n * base + digitOf c) 0

/-- A sign and what follows it. -/
def splitSign : List Char → Bool × List Char
  | '-' :: rest => (true, rest)
  | '+' :: rest => (false, rest)
  | text => (false, text)

/-- Whether the digits of a whole number begin as they may. -/
def hasNoLeadingZero : List Char → Bool
  | '0' :: _ :: _ => false
  | _ => true

/-- An integer that 64 bits hold. -/
def checkedInt? (n : Int) : Option Document :=
  if -0x8000000000000000 ≤ n ∧ n < 0x8000000000000000 then some (.int n) else none

/-- An integer. -/
def integer? (text : List Char) : Option Document :=
  match text with
  | '0' :: 'x' :: digits => (ungroup? 16 digits).bind fun d => checkedInt? (numberOf 16 d)
  | '0' :: 'o' :: digits => (ungroup? 8 digits).bind fun d => checkedInt? (numberOf 8 d)
  | '0' :: 'b' :: digits => (ungroup? 2 digits).bind fun d => checkedInt? (numberOf 2 d)
  | text =>
    let (negative, digits) := splitSign text
    if hasNoLeadingZero digits then
      (ungroup? 10 digits).bind fun d =>
        let n : Int := numberOf 10 d
        checkedInt? (if negative then -n else n)
    else none

/-- The floating point number nearest to `significand * 10 ^ exponent`; infinite if that is too
large. -/
def nearestFloat (significand : Nat) (exponent : Int) : Float :=
  let digits := (Nat.toDigits 10 significand).length
  if significand = 0 ∨ exponent + digits < -400 then 0.0
  else if 400 < exponent + digits then 1.0 / 0.0
  else Float.ofScientific significand (exponent < 0) exponent.natAbs

/-- The exponent after its mark. -/
def exponent? (text : List Char) : Option Int :=
  let (negative, digits) := splitSign text
  (ungroup? 10 digits).map fun d =>
    let n : Int := numberOf 10 d
    if negative then -n else n

/-- Whether a character is the mark of an exponent. -/
def isExponentMark (c : Char) : Bool := c = 'e' || c = 'E'

/-- A number with a fraction, an exponent or both. A positive number that is too large is refused.
-/
def decimal? (text : List Char) : Option Document := do
  let (negative, unsigned) := splitSign text
  let mantissa := unsigned.takeWhile fun c => !isExponentMark c
  let exponentPart := unsigned.drop mantissa.length
  let wholePart := mantissa.takeWhile (· != '.')
  let fractionPart := mantissa.drop wholePart.length
  if exponentPart.isEmpty && fractionPart.isEmpty then failure
  if !hasNoLeadingZero wholePart then failure
  let whole ← ungroup? 10 wholePart
  let fraction ← if fractionPart.isEmpty then some [] else ungroup? 10 (fractionPart.drop 1)
  let exponent ← if exponentPart.isEmpty then some 0 else exponent? (exponentPart.drop 1)
  let x := nearestFloat (numberOf 10 (whole ++ fraction)) (exponent - fraction.length)
  if negative then return .real (-x)
  else if x.isInf then failure
  else return .real x

/-- Infinity and the value that is no number. -/
def special? (text : List Char) : Option Document :=
  let (negative, unsigned) := splitSign text
  let sign (x : Float) : Float := if negative then -x else x
  if unsigned = "inf".toList then some (.real (sign (1.0 / 0.0)))
  else if unsigned = "nan".toList then some (.real (sign (0.0 / 0.0)))
  else none

/-! ## Moments -/

/-- A number of exactly `width` digits at the start of a text. -/
def fixedNumber? (width : Nat) (text : List Char) : Option (Nat × List Char) :=
  let digits := text.take width
  if digits.length = width ∧ digits.all (isDigitIn 10) then
    some (numberOf 10 digits, text.drop width)
  else none

/-- The rest of a text behind a mark. -/
def after? (mark : Char) : List Char → Option (List Char)
  | c :: rest => if c = mark then some rest else none
  | [] => none

/-- The number of days of a month. -/
def daysIn (year month : Nat) : Nat :=
  if month = 2 then
    if year % 4 = 0 ∧ (year % 100 ≠ 0 ∨ year % 400 = 0) then 29 else 28
  else if month = 4 ∨ month = 6 ∨ month = 9 ∨ month = 11 then 30
  else 31

/-- What follows a date. -/
def date? (text : List Char) : Option (List Char) := do
  let (year, rest) ← fixedNumber? 4 text
  let (month, rest) ← fixedNumber? 2 (← after? '-' rest)
  let (day, rest) ← fixedNumber? 2 (← after? '-' rest)
  if 1 ≤ month ∧ month ≤ 12 ∧ 1 ≤ day ∧ day ≤ daysIn year month then return rest else failure

/-- What follows a time of day. -/
def time? (text : List Char) : Option (List Char) := do
  let (hour, rest) ← fixedNumber? 2 text
  let (minute, rest) ← fixedNumber? 2 (← after? ':' rest)
  let (second, rest) ← fixedNumber? 2 (← after? ':' rest)
  if 23 < hour ∨ 59 < minute ∨ 60 < second then failure
  match rest with
  | '.' :: fraction =>
    let digits := fraction.takeWhile (isDigitIn 10)
    if digits.isEmpty then failure else return fraction.drop digits.length
  | rest => return rest

/-- Whether a text is an offset from UTC. -/
def isOffset (text : List Char) : Bool :=
  match text with
  | ['Z'] | ['z'] => true
  | sign :: rest =>
    (sign = '+' || sign = '-') &&
      (do
        let (hour, rest) ← fixedNumber? 2 rest
        let (minute, rest) ← fixedNumber? 2 (← after? ':' rest)
        return rest.isEmpty && hour ≤ 23 && minute ≤ 59).getD false
  | [] => false

/-- Whether a text is a time of day, perhaps with an offset. -/
def isTimeWithOffset (text : List Char) : Bool :=
  match time? text with
  | some rest => rest.isEmpty || isOffset rest
  | none => false

/-- Whether a text is a date, a time of day, or both joined by a letter. -/
def isMoment (text : List Char) : Bool :=
  match date? text with
  | some [] => true
  | some (c :: rest) => (c = 'T' || c = 't') && isTimeWithOffset rest
  | none => time? text == some []

/-- Whether a text is a date without a time. -/
def isDate (text : List Char) : Bool := date? text == some []

/-- The value of an unquoted scalar. -/
def scalar? (text : List Char) : Option Document :=
  if text = "true".toList then some (.bool true)
  else if text = "false".toList then some (.bool false)
  else if isMoment text then some .moment
  else (special? text).or ((integer? text).or (decimal? text))

end Toml

end Failover
