/-!
# Random numbers

Numbers that look random, from a seed. Each seed gives a sequence of its own, and the number at a
place of it can be asked for directly.
-/

namespace Failover

namespace Random

/-- Stirs the bits of a word, so that every bit of the result depends on every bit of it. -/
def stir (x : UInt64) : UInt64 :=
  let x := (x ^^^ (x >>> 30)) * 0xbf58476d1ce4e5b9
  let x := (x ^^^ (x >>> 27)) * 0x94d049bb133111eb
  x ^^^ (x >>> 31)

/-- The word at a place of the sequence of a seed. -/
def word (seed : UInt64) (place : Nat) : UInt64 :=
  stir (seed + (UInt64.ofNat place + 1) * 0x9e3779b97f4a7c15)

/-- The number of 128 bits at a place of the sequence of a seed. -/
def wide (seed : UInt64) (place : Nat) : Nat :=
  (word seed (2 * place)).toNat * 0x10000000000000000 + (word seed (2 * place + 1)).toNat

/-- The number below a bound at a place of the sequence of a seed. -/
def below (seed : UInt64) (bound place : Nat) : Nat := wide seed place % bound

end Random

end Failover
