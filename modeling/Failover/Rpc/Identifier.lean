/-!
# Identifiers of requests

Every request carries an identifier of its own: 128 bits, of which six are fixed by the random
variant of the format, written as hexadecimal digits in five groups.
-/

namespace Failover

namespace Rpc

namespace Identifier

/-- The number that `bits` becomes once the version and the variant are set. -/
def stamp (bits : Nat) : Nat :=
  let low := bits % 0x4000000000000000 + 0x8000000000000000
  let middle := bits / 0x10000000000000000 % 0x1000 + 0x4000
  let high := bits / 0x100000000000000000000 % 0x1000000000000
  (high * 0x10000 + middle) * 0x10000000000000000 + low

/-- The hexadecimal digits of a number, filled up to `width`. -/
def digits (width n : Nat) : List Char :=
  let found := Nat.toDigits 16 n
  List.replicate (width - found.length) '0' ++ found

/-- The identifier made from 128 random bits. -/
def ofBits (bits : Nat) : String :=
  let all := digits 32 (stamp bits)
  let group (start count : Nat) : String := String.ofList ((all.drop start).take count)
  "-".intercalate [group 0 8, group 8 4, group 12 4, group 16 4, group 20 12]

end Identifier

end Rpc

end Failover
