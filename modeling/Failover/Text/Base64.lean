/-!
# Base64

Three octets are written as four of sixty-four characters. What is missing in the last group is
filled up with `=`.
-/

namespace Failover

namespace Text

namespace Base64

/-- The characters that stand for the numbers below 64. -/
def alphabet : List Char :=
  "ABCDEFGHIJKLMNOPQRSTUVWXYZabcdefghijklmnopqrstuvwxyz0123456789+/".toList

/-- The character for a number below 64. -/
def digit (n : Nat) : Char := alphabet.getD n '='

/-- The written form of octets. -/
def encode : List UInt8 → List Char
  | a :: b :: c :: rest =>
    let n := a.toNat * 65536 + b.toNat * 256 + c.toNat
    digit (n / 262144) :: digit (n / 4096 % 64) :: digit (n / 64 % 64) :: digit (n % 64) ::
      encode rest
  | [a, b] =>
    let n := a.toNat * 65536 + b.toNat * 256
    [digit (n / 262144), digit (n / 4096 % 64), digit (n / 64 % 64), '=']
  | [a] =>
    let n := a.toNat * 65536
    [digit (n / 262144), digit (n / 4096 % 64), '=', '=']
  | [] => []

/-- The written form of the octets of a text. -/
def ofText (s : String) : String := String.ofList (encode s.toUTF8.toList)

end Base64

end Text

end Failover
