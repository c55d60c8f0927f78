/-!
# Network addresses in URLs

IPv4 addresses with one to four parts, each decimal, octal or hexadecimal, and IPv6 addresses with
an optional gap and an optional IPv4 tail.
-/

namespace Failover

namespace Url

/-- The parts of a text between separators. -/
def splitAtChar (separator : Char) (text : List Char) : List (List Char) := text.splitOn separator

/-- The value of a digit in a base of at most sixteen. -/
def digitValue? (base : Nat) (c : Char) : Option Nat :=
  let n := c.toNat
  let value? :=
    if 48 ≤ n ∧ n ≤ 57 then some (n - 48)
    else if 97 ≤ n ∧ n ≤ 102 then some (n - 87)
    else if 65 ≤ n ∧ n ≤ 70 then some (n - 55)
    else none
  value?.filter (· < base)

/-- The number that digits of a base stand for. -/
def numberIn? (base : Nat) (digits : List Char) : Option Nat :=
  digits.foldlM (fun n c => (digitValue? base c).map (n * base + ·)) 0

namespace Ipv4

/-- A part of an address: hexadecimal after `0x`, octal after `0`, otherwise decimal. A lone mark is
zero. -/
def part? : List Char → Option Nat
  | [] => none
  | '0' :: 'x' :: digits => numberIn? 16 digits
  | '0' :: 'X' :: digits => numberIn? 16 digits
  | '0' :: c :: digits => numberIn? 8 (c :: digits)
  | digits => numberIn? 10 digits

/-- The parts between points, without an empty one at the end. -/
def parts (text : List Char) : List (List Char) :=
  let all := splitAtChar '.' text
  if all.getLast? = some [] then all.dropLast else all

/-- Whether a host is meant as an address: its last part is a number. -/
def looksLike (text : List Char) : Bool :=
  let all := splitAtChar '.' text
  let last? :=
    match all.reverse with
    | [] :: before :: _ => some before
    | [] :: [] => none
    | last :: _ => some last
    | [] => none
  match last? with
  | none => false
  | some last => (last ≠ [] && last.all Char.isDigit) || (part? last).isSome

/-- The address with these parts. The last part fills all octets that are left. -/
def ofParts? (numbers : List Nat) : Option Nat :=
  match numbers.reverse with
  | [] => none
  | last :: before =>
    let leading := before.reverse
    if leading.any (255 < ·) ∨ Nat.pow 256 (4 - leading.length) ≤ last then none
    else some (leading.foldl (fun n part => n * 256 + part) 0 * Nat.pow 256 (4 - leading.length) + last)

/-- The address that a text stands for. -/
def ofText? (text : List Char) : Option Nat :=
  let all := parts text
  if 4 < all.length then none else (all.mapM part?).bind ofParts?

/-- The address as four decimal numbers. -/
def toText (address : Nat) : String :=
  ".".intercalate ([16777216, 65536, 256, 1].map fun unit => toString (address / unit % 256))

end Ipv4

namespace Ipv6

/-- The pieces found so far, in reverse, and the number of pieces in front of the gap. -/
structure Progress where
  pieces : List Nat
  gap : Option Nat

/-- The decimal number at the start of a text: without leading zeros and at most 255. -/
def octet? (text : List Char) : Option (Nat × List Char) :=
  let digits := text.takeWhile Char.isDigit
  let rest := text.drop digits.length
  match digits with
  | [] => none
  | '0' :: _ :: _ => none
  | _ => ((numberIn? 10 digits).filter (· ≤ 255)).map fun n => (n, rest)

/-- The two pieces of an IPv4 tail, in reverse. -/
def tail? (text : List Char) : Option (List Nat) :=
  match (splitAtChar '.' text).mapM fun part =>
      (octet? part).bind fun (n, rest) => if rest = [] then some n else none with
  | some [a, b, c, d] => some [c * 256 + d, a * 256 + b]
  | _ => none

/-- Reads the pieces from a place at which one may start. -/
def pieces? (progress : Progress) (fuel : Nat) (text : List Char) : Option Progress :=
  match fuel, text with
  | _, [] => some progress
  | 0, _ => none
  | fuel + 1, c :: rest =>
    if progress.pieces.length = 8 then none
    else if c = ':' then
      if progress.gap.isSome then none
      else
        pieces? ⟨0 :: progress.pieces, some (progress.pieces.length + 1)⟩ fuel rest
    else
      let digits := (text.take 4).takeWhile fun d => (digitValue? 16 d).isSome
      let value := (numberIn? 16 digits).getD 0
      match text.drop digits.length with
      | [] => some { progress with pieces := value :: progress.pieces }
      | '.' :: _ =>
        if digits = [] ∨ 6 < progress.pieces.length then none
        else (tail? text).map fun tail => { progress with pieces := tail ++ progress.pieces }
      | ':' :: after =>
        if after = [] then none
        else pieces? { progress with pieces := value :: progress.pieces } fuel after
      | _ => none

/-- The eight pieces: what stands behind the gap moves to the end. -/
def close? (progress : Progress) : Option (List Nat) :=
  let found := progress.pieces.reverse
  match progress.gap with
  | none => if found.length = 8 then some found else none
  | some gap =>
    if found.length ≤ 8 then
      some (found.take gap ++ List.replicate (8 - found.length) 0 ++ found.drop gap)
    else none

/-- The address that a text stands for. -/
def ofText? (text : List Char) : Option (List Nat) :=
  match text with
  | ':' :: ':' :: rest => (pieces? ⟨[0], some 1⟩ rest.length rest).bind close?
  | ':' :: _ => none
  | [] | [_] => none
  | text => (pieces? ⟨[], none⟩ text.length text).bind close?

/-- The number of zeros at the start. -/
def zeroRun (pieces : List Nat) : Nat := (pieces.takeWhile (· == 0)).length

/-- The first longest run of zeros from an index on: where it starts and how long it is. -/
def longestRun (index : Nat) : List Nat → Nat × Nat
  | [] => (index, 0)
  | piece :: rest =>
    let here := zeroRun (piece :: rest)
    let later := longestRun (index + 1) rest
    if later.2 ≤ here then (index, here) else later

/-- Pieces in hexadecimal between colons. -/
def joinPieces (pieces : List Nat) : String :=
  ":".intercalate (pieces.map fun n => String.ofList (Nat.toDigits 16 n))

/-- The address with its longest run of at least two zeros left out. -/
def toText (pieces : List Nat) : String :=
  let (start, length) := longestRun 0 pieces
  if length < 2 then joinPieces pieces
  else joinPieces (pieces.take start) ++ "::" ++ joinPieces (pieces.drop (start + length))

end Ipv6

end Url

end Failover
