import Failover.Text.Printable

/-!
# Quoted text and records

The diagnostic form of values: texts in double quotes, optional values as `Some(..)` or `None`, and
records as a name and their fields between braces.
-/

namespace Failover

namespace Text

/-- The digits of a number in lower case hexadecimal. -/
def hexDigits (n : Nat) : List Char := Nat.toDigits 16 n

/-- A character between double quotes. -/
def quoteChar (c : Char) : List Char :=
  if c = '"' then ['\\', '"']
  else if c = '\\' then ['\\', '\\']
  else if c = '\n' then ['\\', 'n']
  else if c = '\r' then ['\\', 'r']
  else if c = '\t' then ['\\', 't']
  else if c.toNat = 0 then ['\\', '0']
  else if isPrintable c then [c]
  else ['\\', 'u', '{'] ++ hexDigits c.toNat ++ ['}']

/-- A text between double quotes. A character that cannot be shown is written by its code point. -/
def quoted (s : String) : String := "\"" ++ String.ofList (s.toList.flatMap quoteChar) ++ "\""

/-- An optional value. -/
def optional {α : Type} (render : α → String) : Option α → String
  | none => "None"
  | some a => "Some(" ++ render a ++ ")"

/-- A truth value. -/
def truth (b : Bool) : String := if b then "true" else "false"

/-- A list between brackets. -/
def list {α : Type} (render : α → String) (items : List α) : String :=
  "[" ++ ", ".intercalate (items.map render) ++ "]"

/-- A value that consists of parts. -/
def tuple (name : String) (parts : List String) : String := name ++ "(" ++ ", ".intercalate parts ++ ")"

/-- The fields of a record in order. -/
def fields (members : List (String × String)) : String :=
  ", ".intercalate (members.map fun m => m.1 ++ ": " ++ m.2)

/-- A record with all of its fields. -/
def record (name : String) (members : List (String × String)) : String :=
  name ++ " \x7b " ++ fields members ++ " \x7d"

/-- A record that shows only some of its fields. -/
def openRecord (name : String) (members : List (String × String)) : String :=
  name ++ " \x7b " ++ fields members ++ ", .. \x7d"

end Text

end Failover
