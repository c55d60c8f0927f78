import Failover.Json.Reading

/-!
# Percent encoding

An octet that may not stand in some part of a URL is written as a percent sign and two hexadecimal
digits. Each part has its own set of ASCII characters that are encoded; other characters always are.
-/

namespace Failover

namespace Url

/-- The ASCII characters that are encoded in one part of a URL, beside the controls. -/
abbrev EncodeSet := List Char

/-- Nothing but the controls. -/
def controlSet : EncodeSet := []

/-- In a fragment. -/
def fragmentSet : EncodeSet := [' ', '"', '<', '>', Char.ofNat 0x60]

/-- In a query. -/
def querySet : EncodeSet := [' ', '"', '#', '<', '>']

/-- In the query of a URL with a special scheme. -/
def specialQuerySet : EncodeSet := '\'' :: querySet

/-- In a segment of a path. -/
def pathSet : EncodeSet := ['#', '?', '{', '}'] ++ fragmentSet

/-- In a user name or a password. -/
def userinfoSet : EncodeSet := ['/', ':', ';', '=', '@', '[', '\\', ']', '^', '|'] ++ pathSet

/-- A hexadecimal digit in upper case. -/
def upperHexDigit (n : Nat) : Char := if n < 10 then Char.ofNat (48 + n) else Char.ofNat (55 + n)

/-- An octet in its encoded form. -/
def encodeOctet (b : UInt8) : List Char :=
  ['%', upperHexDigit (b.toNat / 16), upperHexDigit (b.toNat % 16)]

/-- Whether a character is encoded. -/
def needsEncoding (set : EncodeSet) (c : Char) : Bool :=
  c.toNat < 0x20 || 0x7f ≤ c.toNat || set.contains c

/-- Encodes a character if it has to be. -/
def encodeChar (set : EncodeSet) (c : Char) : List Char :=
  if needsEncoding set c then (Json.utf8Octets c).flatMap encodeOctet else [c]

/-- Encodes a text. -/
def percentEncode (set : EncodeSet) (text : List Char) : List Char := text.flatMap (encodeChar set)

/-- The value of a hexadecimal digit of either case. -/
def hexValue? (b : UInt8) : Option UInt8 :=
  if 48 ≤ b ∧ b ≤ 57 then some (b - 48)
  else if 97 ≤ b ∧ b ≤ 102 then some (b - 87)
  else if 65 ≤ b ∧ b ≤ 70 then some (b - 55)
  else none

/-- The octets of a text in which encoded octets are decoded. A percent sign without two digits
stands for itself. -/
def percentDecode : List UInt8 → List UInt8
  | 37 :: a :: b :: rest =>
    match hexValue? a, hexValue? b with
    | some high, some low => (high * 16 + low) :: percentDecode rest
    | _, _ => 37 :: percentDecode (a :: b :: rest)
  | b :: rest => b :: percentDecode rest
  | [] => []

/-- The octets of a text. -/
def octets (text : List Char) : List UInt8 := (String.ofList text).toUTF8.toList

/-- The text that octets are the UTF-8 form of. -/
def ofOctets? (bytes : List UInt8) : Option (List Char) :=
  (String.fromUTF8? ⟨bytes.toArray⟩).map String.toList

end Url

end Failover
