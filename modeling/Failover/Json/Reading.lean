import Failover.Json.Outline
import Failover.Json.Value

/-!
# Values of JSON texts

The value of an outline, for at most `Json.depthLimit` nested containers. A string needs valid UTF-8
and paired surrogates, a number has to stay finite. An integer literal that no 64 bit integer holds
is read as a floating point number, and so is `-0`.
-/

namespace Failover

namespace Json

/-- The number of containers that may be open at once. -/
def depthLimit : Nat := 127

/-- The value of a hexadecimal digit. -/
def hexValue (b : UInt8) : Nat :=
  if b ≤ 57 then b.toNat - 48 else if b ≤ 70 then b.toNat - 55 else b.toNat - 87

/-- The octets of a character in UTF-8. -/
def utf8Octets (c : Char) : List UInt8 := (String.singleton c).toUTF8.toList

/-- Two surrogates taken together. -/
def joinSurrogates (high low : Nat) : Nat := 0x10000 + (high - 0xD800) * 0x400 + (low - 0xDC00)

/-- The character that a simple escape stands for. -/
def simpleEscape (b : UInt8) : UInt8 :=
  if b == 98 then 8 else if b == 102 then 12 else if b == 110 then 10
  else if b == 114 then 13 else if b == 116 then 9 else b

/-- The octets of a written string, with the ones already found in reverse. A surrogate escape is
accepted only as the first of a pair. -/
def unescape? (found : List UInt8) : List UInt8 → Option (List UInt8)
  | [] => some found.reverse
  | 92 :: 117 :: a :: b :: c :: d :: rest =>
    let unit := ((hexValue a * 16 + hexValue b) * 16 + hexValue c) * 16 + hexValue d
    if unit < 0xD800 ∨ 0xE000 ≤ unit then
      unescape? ((utf8Octets (Char.ofNat unit)).reverse ++ found) rest
    else if 0xDC00 ≤ unit then none
    else
      match rest with
      | 92 :: 117 :: e :: f :: g :: h :: rest =>
        let low := ((hexValue e * 16 + hexValue f) * 16 + hexValue g) * 16 + hexValue h
        if 0xDC00 ≤ low ∧ low < 0xE000 then
          unescape? ((utf8Octets (Char.ofNat (joinSurrogates unit low))).reverse ++ found) rest
        else none
      | _ => none
  | 92 :: b :: rest => unescape? (simpleEscape b :: found) rest
  | b :: rest => unescape? (b :: found) rest

/-- The text of a written string. -/
def stringValue? (written : List UInt8) : Option String :=
  match unescape? [] written with
  | none => none
  | some octets => String.fromUTF8? ⟨octets.toArray⟩

/-- The digits of a number that have been read: a significand of at most 64 bits and the power of
ten that it is to be scaled by. -/
structure Digits where
  significand : Nat
  exponent : Int
  /-- Whether the significand is full. -/
  full : Bool
deriving DecidableEq

namespace Digits

/-- The value of a decimal digit. -/
def value (b : UInt8) : Nat := b.toNat - 48

/-- The significand with one more digit. -/
def extend (d : Digits) (b : UInt8) : Nat := d.significand * 10 + value b

/-- Takes in a digit in front of the point. A full significand only counts it. -/
def addWhole (d : Digits) (b : UInt8) : Digits :=
  if d.full ∨ 0x10000000000000000 ≤ d.extend b then ⟨d.significand, d.exponent + 1, true⟩
  else ⟨d.extend b, 0, false⟩

/-- Takes in a digit behind the point. A full significand ignores it. -/
def addFraction (d : Digits) (b : UInt8) : Digits :=
  if d.full ∨ 0x10000000000000000 ≤ d.extend b then { d with full := true }
  else ⟨d.extend b, d.exponent - 1, false⟩

/-- The digits of a whole part. -/
def ofWhole (whole : List UInt8) : Digits := whole.foldl addWhole ⟨0, 0, false⟩

/-- The digits with those of a fraction behind them. -/
def withFraction (d : Digits) (fraction : List UInt8) : Digits :=
  fraction.foldl addFraction { d with full := false }

end Digits

/-- A power of ten as a floating point number. -/
def powerOfTen (exponent : Nat) : Float := Float.ofScientific 1 false exponent

/-- Brings an exponent into the range of the powers of ten by dividing at most `rounds` times. -/
def shrink (x : Float) (exponent : Int) : Nat → Float × Int
  | 0 => (x, exponent)
  | rounds + 1 =>
    if exponent < -308 ∧ x ≠ 0.0 then shrink (x / powerOfTen 308) (exponent + 308) rounds
    else (x, exponent)

/-- The significand as a floating point number, multiplied or divided by a power of ten. There is no
value beyond the largest finite number. -/
def scaled? (significand : Nat) (exponent : Int) : Option Float :=
  let x := Float.ofNat significand
  if significand = 0 then some 0.0
  else if 308 < exponent then none
  else if 0 ≤ exponent then
    let y := x * powerOfTen exponent.toNat
    if y.isInf then none else some y
  else
    let (y, rest) := shrink x exponent 4
    some (if y == 0.0 then 0.0 else y / powerOfTen rest.natAbs)

/-- The number that the digits of an exponent stand for. -/
def exponentValue (digits : List UInt8) : Nat :=
  digits.foldl (fun n b => n * 10 + Digits.value b) 0

/-- The largest exponent that is taken at its value. -/
def exponentCap : Nat := 0x7fffffff

/-- The value of digits with a written exponent. An enormous exponent makes any number zero or too
large. -/
def withExponent? (d : Digits) (negative : Bool) (digits : List UInt8) : Option Float :=
  let n := exponentValue digits
  if exponentCap < n then
    if d.significand = 0 ∨ negative then some 0.0 else none
  else scaled? d.significand (if negative then d.exponent - n else d.exponent + n)

/-- The value of a written number. An integer stays one if 64 bits hold it. -/
def numberValue? (written : List UInt8) : Option Json :=
  let negative := written.head? == some 45
  let unsigned := if negative then written.drop 1 else written
  let whole := unsigned.takeWhile Lexer.isDigit
  let rest := unsigned.drop whole.length
  let hasFraction := rest.head? == some 46
  let fraction := if hasFraction then (rest.drop 1).takeWhile Lexer.isDigit else []
  let exponent := if hasFraction then rest.drop (1 + fraction.length) else rest
  let signed (x : Float) : Json := float (if negative then -x else x)
  let digits := Digits.ofWhole whole
  if rest.isEmpty then
    if digits.full then (scaled? digits.significand digits.exponent).map signed
    else if !negative then some (int digits.significand)
    else if digits.significand = 0 ∨ 0x8000000000000000 < digits.significand then
      some (signed (Float.ofNat digits.significand))
    else some (int (-digits.significand))
  else
    let digits := if hasFraction then digits.withFraction fraction else digits
    if exponent.isEmpty then (scaled? digits.significand digits.exponent).map signed
    else
      (withExponent? digits ((exponent.drop 1).head? == some 45)
        (exponent.filter Lexer.isDigit)).map signed

/-- The value of a scalar token. -/
def scalarValue? : Token → Option Json
  | .null => some null
  | .truth b => some (bool b)
  | .number written => numberValue? written
  | .string written => (stringValue? written).map string
  | _ => none

mutual

/-- The value of an outline with at most `depth` containers open at once. -/
def Outline.value? (depth : Nat) : Outline → Option Json
  | .scalar token => scalarValue? token
  | .array items =>
    match depth with
    | 0 => none
    | depth + 1 => (Outline.values? depth items).map Json.array
  | .object members =>
    match depth with
    | 0 => none
    | depth + 1 => (Outline.memberValues? depth members).map Json.ofMembers

/-- The values of the items of an array. -/
def Outline.values? (depth : Nat) : List Outline → Option (List Json)
  | [] => some []
  | item :: rest =>
    match Outline.value? depth item with
    | none => none
    | some v => (Outline.values? depth rest).map (v :: ·)

/-- The keys and values of the members of an object. -/
def Outline.memberValues? (depth : Nat) :
    List (List UInt8 × Outline) → Option (List (String × Json))
  | [] => some []
  | (key, item) :: rest =>
    match stringValue? key, Outline.value? depth item with
    | some k, some v => (Outline.memberValues? depth rest).map ((k, v) :: ·)
    | _, _ => none

end

/-- The value of a JSON text. -/
def ofBytes? (bytes : List UInt8) : Option Json :=
  match Outline.ofBytes? bytes with
  | none => none
  | some outline => outline.value? depthLimit

/-- The value of a JSON text. -/
def ofText? (text : String) : Option Json := ofBytes? text.toUTF8.toList

end Json

end Failover
