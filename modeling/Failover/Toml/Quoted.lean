/-!
# Keys and strings of TOML

Bare keys, basic strings with escapes, literal strings without, and both kinds over several lines. A
string over several lines drops a line break right after its opening quotes and may end with up to
two quotes of its own.
-/

namespace Failover

namespace Toml

/-- Space and tab. -/
def isBlank (c : Char) : Bool := c = ' ' || c = '\t'

/-- A character that may stand in a comment or a string: tab, or no control character. -/
def isPlain (c : Char) : Bool := c = '\t' || (0x20 ≤ c.toNat && c.toNat ≠ 0x7f)

/-- A character of a bare key. -/
def isBareKeyChar (c : Char) : Bool := c.isAlphanum || c = '_' || c = '-'

/-- Without blanks at the start. -/
def skipBlanks (text : List Char) : List Char := text.dropWhile isBlank

/-- What follows a line break. -/
def afterBreak? : List Char → Option (List Char)
  | '\n' :: rest => some rest
  | '\r' :: '\n' :: rest => some rest
  | _ => none

/-- The value of a hexadecimal digit. -/
def hexDigit? (c : Char) : Option Nat :=
  let n := c.toNat
  if 48 ≤ n ∧ n ≤ 57 then some (n - 48)
  else if 97 ≤ n ∧ n ≤ 102 then some (n - 87)
  else if 65 ≤ n ∧ n ≤ 70 then some (n - 55)
  else none

/-- The character whose code point hexadecimal digits give; surrogates have none. -/
def codePoint? (digits : List Char) : Option Char :=
  match digits.foldlM (fun n c => (hexDigit? c).map (n * 16 + ·)) 0 with
  | some n => if n < 0xD800 ∨ (0xE000 ≤ n ∧ n < 0x110000) then some (Char.ofNat n) else none
  | none => none

/-- The character of an escape with a single letter. -/
def escape? (c : Char) : Option Char :=
  if c = 'b' then some (Char.ofNat 8)
  else if c = 't' then some '\t'
  else if c = 'n' then some '\n'
  else if c = 'f' then some (Char.ofNat 12)
  else if c = 'r' then some '\r'
  else if c = '"' then some '"'
  else if c = '\\' then some '\\'
  else none

/-- A basic string after its opening quote, with its characters so far in reverse. -/
def basic? (found : List Char) : List Char → Option (List Char × List Char)
  | [] => none
  | '"' :: rest => some (found.reverse, rest)
  | '\\' :: 'u' :: a :: b :: c :: d :: rest =>
    match codePoint? [a, b, c, d] with
    | some x => basic? (x :: found) rest
    | none => none
  | '\\' :: 'U' :: a :: b :: c :: d :: e :: f :: g :: h :: rest =>
    match codePoint? [a, b, c, d, e, f, g, h] with
    | some x => basic? (x :: found) rest
    | none => none
  | '\\' :: c :: rest =>
    match escape? c with
    | some x => basic? (x :: found) rest
    | none => none
  | c :: rest => if isPlain c then basic? (c :: found) rest else none

/-- A literal string after its opening quote. -/
def literal? (text : List Char) : Option (List Char × List Char) :=
  let body := text.takeWhile fun c => isPlain c && c ≠ '\''
  match text.drop body.length with
  | '\'' :: rest => some (body, rest)
  | _ => none

/-- Whether the line has nothing but blanks left. -/
def endsLine (text : List Char) : Bool := (afterBreak? (skipBlanks text)).isSome

/-- The end of a string over several lines: up to two more quotes belong to it. -/
def closeLong (quote : Char) (found rest : List Char) : List Char × List Char :=
  let extra := (rest.take 2).takeWhile (· == quote)
  ((extra ++ found).reverse, rest.drop extra.length)

/-- A basic string over several lines after its opening quotes. While `trims` is set, blanks and
line breaks are dropped. -/
def longBasic? (trims : Bool) (found : List Char) : List Char → Option (List Char × List Char)
  | [] => none
  | '"' :: '"' :: '"' :: rest => some (closeLong '"' found rest)
  | '\n' :: rest => longBasic? trims (if trims then found else '\n' :: found) rest
  | '\r' :: '\n' :: rest => longBasic? trims (if trims then found else '\n' :: found) rest
  | '\\' :: 'u' :: a :: b :: c :: d :: rest =>
    match codePoint? [a, b, c, d] with
    | some x => longBasic? false (x :: found) rest
    | none => none
  | '\\' :: 'U' :: a :: b :: c :: d :: e :: f :: g :: h :: rest =>
    match codePoint? [a, b, c, d, e, f, g, h] with
    | some x => longBasic? false (x :: found) rest
    | none => none
  | '\\' :: c :: rest =>
    if endsLine (c :: rest) then longBasic? true found (c :: rest)
    else
      match escape? c with
      | some x => longBasic? false (x :: found) rest
      | none => none
  | c :: rest =>
    if trims && isBlank c then longBasic? true found rest
    else if isPlain c then longBasic? false (c :: found) rest
    else none

/-- A literal string over several lines after its opening quotes. -/
def longLiteral? (found : List Char) : List Char → Option (List Char × List Char)
  | [] => none
  | '\'' :: '\'' :: '\'' :: rest => some (closeLong '\'' found rest)
  | '\n' :: rest => longLiteral? ('\n' :: found) rest
  | '\r' :: '\n' :: rest => longLiteral? ('\n' :: found) rest
  | c :: rest => if isPlain c then longLiteral? (c :: found) rest else none

/-- A string of any kind. -/
def string? : List Char → Option (List Char × List Char)
  | '"' :: '"' :: '"' :: rest => longBasic? false [] ((afterBreak? rest).getD rest)
  | '\'' :: '\'' :: '\'' :: rest => longLiteral? [] ((afterBreak? rest).getD rest)
  | '"' :: rest => basic? [] rest
  | '\'' :: rest => literal? rest
  | _ => none

/-- One part of a key. -/
def simpleKey? (text : List Char) : Option (String × List Char) :=
  match text with
  | '"' :: rest => (basic? [] rest).map fun (key, rest) => (String.ofList key, rest)
  | '\'' :: rest => (literal? rest).map fun (key, rest) => (String.ofList key, rest)
  | text =>
    let key := text.takeWhile isBareKeyChar
    if key.isEmpty then none else some (String.ofList key, text.drop key.length)

/-- The largest number of parts of a key. -/
def keyPartLimit : Nat := 79

/-- A key of at most `budget` parts joined by points, with blanks around each. -/
def keyParts? : Nat → List Char → Option (List String × List Char)
  | 0, _ => none
  | budget + 1, text =>
    match simpleKey? (skipBlanks text) with
    | none => none
    | some (part, rest) =>
      match skipBlanks rest with
      | '.' :: rest => (keyParts? budget rest).map fun (parts, rest) => (part :: parts, rest)
      | rest => some ([part], rest)

/-- A key. -/
def key? (text : List Char) : Option (List String × List Char) := keyParts? keyPartLimit text

end Toml

end Failover
