import Failover.Decimal.Notation
import Failover.Json.Value

/-!
# Writing JSON

Values are written compactly or over several lines. A string escapes quotes, backslashes and control
characters; everything else stays as it is. A number that is not finite is written as `null`.
-/

namespace Failover

namespace Json

/-- Numbers are positional from `0.00001` up to sixteen digits in front of the point. -/
def numberFormat : DecimalFormat := ⟨-5, 15, true, true⟩

/-- A floating point number; `null` if it is not finite. -/
def floatText (x : Float) : String := if x.isFinite then numberFormat.render x else "null"

/-- A hexadecimal digit in lower case. -/
def hexDigit (n : Nat) : Char := if n < 10 then Char.ofNat (48 + n) else Char.ofNat (87 + n)

/-- A character of a string literal. -/
def escapeChar (c : Char) : List Char :=
  if c = '"' then ['\\', '"']
  else if c = '\\' then ['\\', '\\']
  else if c.toNat = 8 then ['\\', 'b']
  else if c.toNat = 12 then ['\\', 'f']
  else if c = '\n' then ['\\', 'n']
  else if c = '\r' then ['\\', 'r']
  else if c = '\t' then ['\\', 't']
  else if c.toNat < 32 then
    ['\\', 'u', '0', '0', hexDigit (c.toNat / 16), hexDigit (c.toNat % 16)]
  else [c]

/-- A string literal. -/
def quote (s : String) : String := "\"" ++ String.ofList (s.toList.flatMap escapeChar) ++ "\""

mutual

/-- The value without any white space. -/
def compact : Json → String
  | .null => "null"
  | .bool b => if b then "true" else "false"
  | .int n => toString n
  | .float x => floatText x
  | .string s => quote s
  | .array items => "[" ++ ",".intercalate (compactItems items) ++ "]"
  | .object members => "\x7b" ++ ",".intercalate (compactMembers members) ++ "\x7d"

/-- The items of an array without any white space. -/
def compactItems : List Json → List String
  | [] => []
  | v :: rest => compact v :: compactItems rest

/-- The members of an object without any white space. -/
def compactMembers : List (String × Json) → List String
  | [] => []
  | (k, v) :: rest => (quote k ++ ":" ++ compact v) :: compactMembers rest

end

/-- The line break in front of a line at this level. -/
def lineBreak (level : Nat) : String := "\n" ++ "".pushn ' ' (2 * level)

mutual

/-- The value over several lines, two spaces for each level. -/
def pretty (level : Nat) : Json → String
  | .array [] => "[]"
  | .object [] => "\x7b\x7d"
  | .array (v :: rest) =>
    "[" ++ ",".intercalate (prettyItems (level + 1) (v :: rest)) ++ lineBreak level ++ "]"
  | .object (m :: rest) =>
    "\x7b" ++ ",".intercalate (prettyMembers (level + 1) (m :: rest)) ++ lineBreak level ++ "\x7d"
  | v => compact v

/-- The items of an array, each on a line of its own. -/
def prettyItems (level : Nat) : List Json → List String
  | [] => []
  | v :: rest => (lineBreak level ++ pretty level v) :: prettyItems level rest

/-- The members of an object, each on a line of its own. -/
def prettyMembers (level : Nat) : List (String × Json) → List String
  | [] => []
  | (k, v) :: rest =>
    (lineBreak level ++ quote k ++ ": " ++ pretty level v) :: prettyMembers level rest

end

end Json

end Failover
