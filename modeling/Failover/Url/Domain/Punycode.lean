/-!
# Punycode

A text in ASCII that stands for any text: the ASCII characters in order, a dash, and the other
characters in increasing order, each as the number of places that are passed over on the way to its
own. These numbers have digits of varying weight, which adapt to the numbers in front of them.
-/

namespace Failover

namespace Url

namespace Punycode

/-- The digit for a number below 36. -/
def digit (n : Nat) : Char := if n < 26 then Char.ofNat (97 + n) else Char.ofNat (22 + n)

/-- The number below 36 that a digit stands for. -/
def digitValue? (c : Char) : Option Nat :=
  let n := c.toNat
  if 97 ≤ n ∧ n ≤ 122 then some (n - 97)
  else if 65 ≤ n ∧ n ≤ 90 then some (n - 65)
  else if 48 ≤ n ∧ n ≤ 57 then some (n - 22)
  else none

/-- The least digit that goes on, at a position, given the bias. -/
def threshold (position bias : Nat) : Nat :=
  if position ≤ bias then 1 else if bias + 26 ≤ position then 26 else position - bias

/-- Every threshold is at least 1, so digits carry weight. -/
theorem threshold_pos (position bias : Nat) : 1 ≤ threshold position bias := by
  unfold threshold
  split
  · exact Nat.le_refl 1
  · split <;> omega

/-- Every threshold is at most 26, the number of the letters. -/
theorem threshold_le (position bias : Nat) : threshold position bias ≤ 26 := by
  unfold threshold
  split
  · omega
  · split <;> omega

/-- Divides by 35 until little is left; `k` goes up by 36 each time. -/
def shrink (delta k : Nat) : Nat × Nat :=
  if 455 < delta then shrink (delta / 35) (k + 36) else (delta, k)
termination_by delta
decreasing_by exact Nat.div_lt_self (by omega) (by omega)

/-- The bias behind a number, of which `count` characters have been written. -/
def adapt (delta count : Nat) (isFirst : Bool) : Nat :=
  let damped := if isFirst then delta / 700 else delta / 2
  let (rest, k) := shrink (damped + damped / count) 0
  k + 36 * rest / (rest + 38)

/-! ## Writing -/

/-- The digits of a number. -/
def digits (bias position n : Nat) : List Char :=
  let t := threshold position bias
  if n < t then [digit n]
  else digit (t + (n - t) % (36 - t)) :: digits bias (position + 36) ((n - t) / (36 - t))
termination_by n
decreasing_by
  have h := threshold_pos position bias
  have h' := threshold_le position bias
  calc (n - threshold position bias) / (36 - threshold position bias)
      ≤ n - threshold position bias := Nat.div_le_self _ _
    _ < n := by omega

/-- What has been written so far. -/
structure Progress where
  /-- The digits, the latest first. -/
  written : List Char
  /-- The places that have been passed over since the last number. -/
  delta : Nat
  bias : Nat
  /-- The number of characters that are done. -/
  count : Nat

/-- Passes over a character on the way to those with code point `n`. -/
def Progress.pass (basicCount n : Nat) (p : Progress) (c : Char) : Progress :=
  if c.toNat < n then { p with delta := p.delta + 1 }
  else if c.toNat = n then
    { written := (digits p.bias 36 p.delta).reverse ++ p.written
      delta := 0
      bias := adapt p.delta (p.count + 1) (p.count = basicCount)
      count := p.count + 1 }
  else p

/-- Writes the characters with the given code points, in increasing order, from code point
`start` on. -/
def writeAll (text : List Char) (basicCount : Nat) : Nat → Progress → List Nat → Progress
  | _, p, [] => p
  | start, p, n :: rest =>
    let reached := { p with delta := p.delta + (n - start) * (p.count + 1) }
    let passed := text.foldl (Progress.pass basicCount n) reached
    writeAll text basicCount (n + 1) { passed with delta := passed.delta + 1 } rest

/-- Whether a character is written as it is. -/
def isBasic (c : Char) : Bool := c.toNat < 0x80

/-- A list without repetitions, if equal members stand together. -/
def dropRepeats : List Nat → List Nat
  | a :: b :: rest => if a = b then dropRepeats (b :: rest) else a :: dropRepeats (b :: rest)
  | short => short

/-- The written form of a text. -/
def encode (text : List Char) : List Char :=
  let basic := text.filter isBasic
  let others := dropRepeats (((text.filter fun c => !isBasic c).map Char.toNat).mergeSort)
  let p := writeAll text basic.length 0x80 ⟨[], 0, 72, basic.length⟩ others
  basic ++ (if basic.isEmpty then [] else ['-']) ++ p.written.reverse

/-! ## Reading -/

/-- Reads a number and adds it to `sum`. -/
def number? (bias position weight sum : Nat) : List Char → Option (Nat × List Char)
  | [] => none
  | c :: rest =>
    match digitValue? c with
    | none => none
    | some d =>
      if d < threshold position bias then some (sum + d * weight, rest)
      else
        number? bias (position + 36) (weight * (36 - threshold position bias)) (sum + d * weight)
          rest

/-- Reading a number takes off at least one character. -/
theorem length_lt_of_number? {bias position weight sum : Nat} {text : List Char}
    {found : Nat × List Char} (h : number? bias position weight sum text = some found) :
    found.2.length < text.length := by
  induction text generalizing position weight sum with
  | nil => simp [number?] at h
  | cons c rest ih =>
    unfold number? at h
    split at h
    · cases h
    · split at h
      · cases h; exact Nat.lt_succ_self _
      · exact Nat.lt_succ_of_lt (ih h)

/-- Puts the characters that numbers stand for into the text found so far. -/
def insertAll? (bias n place : Nat) (found : List Char) (text : List Char) : Option (List Char) :=
  match text with
  | [] => some found
  | c :: rest =>
    match _found : number? bias 36 1 place (c :: rest) with
    | none => none
    | some (next, after) =>
      let count := found.length + 1
      let n := n + next / count
      if n < 0xd800 ∨ (0xdfff < n ∧ n < 0x110000) then
        insertAll? (adapt (next - place) count (place = 0)) n (next % count + 1)
          (found.insertIdx (next % count) (Char.ofNat n)) after
      else none
termination_by text.length
decreasing_by
  have := length_lt_of_number? _found
  simpa using this

/-- The parts in front of and behind the last dash. -/
def splitAtLastDash (text : List Char) : List Char × List Char :=
  let tail := (text.reverse.takeWhile (· != '-')).reverse
  (text.take (text.length - tail.length - 1), tail)

/-- The text that a written form stands for. -/
def decode? (text : List Char) : Option (List Char) :=
  let (basic, rest) := splitAtLastDash text
  if basic.all isBasic then insertAll? 72 0x80 0 basic rest else none

end Punycode

end Url

end Failover
