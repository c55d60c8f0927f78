import Failover.Toml.Quoted
import Failover.Toml.Scalar
import Failover.Toml.Tree

/-!
# Reading TOML

A text is a sequence of lines: headers, keys with their values, comments and blanks. `Toml.read?`
gives the document of a text, or nothing if the text is malformed or defines something twice.
-/

namespace Failover

namespace Toml

/-- The number of arrays and inline tables that may be open at once. -/
def depthLimit : Nat := 79

/-- Without a comment at the start, if there is one. -/
def skipComment (text : List Char) : List Char :=
  match text with
  | '#' :: rest => rest.dropWhile isPlain
  | text => text

/-- What follows the end of a line: blanks, perhaps a comment, and a line break or the end. -/
def endLine? (text : List Char) : Option (List Char) :=
  match skipComment (skipBlanks text) with
  | [] => some []
  | rest => afterBreak? rest

/-- Without blanks, comments and line breaks at the start; at most `fuel` lines. -/
def skipLines : Nat → List Char → List Char
  | 0, text => text
  | fuel + 1, text =>
    let rest := skipComment (skipBlanks text)
    match afterBreak? rest with
    | some next => skipLines fuel next
    | none => rest

/-- Without blanks, comments and line breaks at the start. -/
def skipSpace (text : List Char) : List Char := skipLines (text.length + 1) text

/-- A character of an unquoted scalar. -/
def isScalarChar (c : Char) : Bool := c.isAlphanum || ['+', '-', '_', '.', ':'].contains c

/-- An unquoted scalar. A date may be joined to a time by a space. -/
def bareScalar? (text : List Char) : Option (Document × List Char) :=
  let word := text.takeWhile isScalarChar
  let rest := text.drop word.length
  match isDate word, rest with
  | true, ' ' :: c :: more =>
    if c.isDigit then
      let time := (c :: more).takeWhile isScalarChar
      if isTimeWithOffset time then some (.moment, (c :: more).drop time.length) else none
    else some (.moment, rest)
  | _, _ => (scalar? word).map fun value => (value, rest)

mutual

/-- A value. -/
def value? (fuel depth : Nat) (text : List Char) : Option (Document × List Char) :=
  match fuel with
  | 0 => none
  | fuel + 1 =>
    match text with
    | '[' :: rest =>
      match depth with
      | 0 => none
      | depth + 1 => (items? fuel depth [] (skipSpace rest)).map fun (items, rest) => (.list items, rest)
    | '{' :: rest =>
      match depth with
      | 0 => none
      | depth + 1 =>
        match skipBlanks rest with
        | '}' :: rest => some (.table [], rest)
        | rest =>
          (pairs? fuel depth [] rest).map fun (members, rest) =>
            (.table (membersDocument members), rest)
    | '"' :: _ | '\'' :: _ =>
      (string? text).map fun (s, rest) => (.text (String.ofList s), rest)
    | text => bareScalar? text

/-- The items of an array, with those already found in reverse. -/
def items? (fuel depth : Nat) (found : List Document) (text : List Char) :
    Option (List Document × List Char) :=
  match fuel with
  | 0 => none
  | fuel + 1 =>
    match text with
    | ']' :: rest => some (found.reverse, rest)
    | text =>
      match value? fuel depth text with
      | none => none
      | some (value, rest) =>
        match skipSpace rest with
        | ',' :: rest => items? fuel depth (value :: found) (skipSpace rest)
        | ']' :: rest => some ((value :: found).reverse, rest)
        | _ => none

/-- The pairs of an inline table. -/
def pairs? (fuel depth : Nat) (found : Members) (text : List Char) :
    Option (Members × List Char) :=
  match fuel with
  | 0 => none
  | fuel + 1 =>
    match key? text with
    | some (key, '=' :: rest) =>
      match value? fuel depth (skipBlanks rest), key.getLast? with
      | some (value, rest), some last =>
        match found.assign? last (.leaf value) key.dropLast with
        | none => none
        | some members =>
          match skipBlanks rest with
          | ',' :: rest => pairs? fuel depth members rest
          | '}' :: rest => some (members, rest)
          | _ => none
      | _, _ => none
    | _ => none

end

/-- The tree so far and the path of the table that keys go to. -/
structure Progress where
  root : Members
  path : List String

/-- Takes in a header. -/
def Progress.enter? (p : Progress) (isItem : Bool) (key : List String) : Option Progress :=
  match key.getLast? with
  | none => none
  | some last =>
    let change := if isItem then Members.openItem? last else Members.openTable? last
    (p.root.changeAt? change key.dropLast).map fun root => ⟨root, key⟩

/-- Takes in a key with its value. -/
def Progress.add? (p : Progress) (key : List String) (value : Document) : Option Progress :=
  match key.getLast? with
  | none => none
  | some last =>
    (p.root.changeAt? (fun m => m.assign? last (.leaf value) key.dropLast) p.path).map fun root =>
      { p with root := root }

/-- A header after its first bracket, and what follows its line. -/
def header? (p : Progress) (text : List Char) : Option (Progress × List Char) :=
  match text with
  | '[' :: rest =>
    match key? rest with
    | some (key, ']' :: ']' :: rest) =>
      match p.enter? true key, endLine? rest with
      | some p, some rest => some (p, rest)
      | _, _ => none
    | _ => none
  | rest =>
    match key? rest with
    | some (key, ']' :: rest) =>
      match p.enter? false key, endLine? rest with
      | some p, some rest => some (p, rest)
      | _, _ => none
    | _ => none

/-- A key with its value, and what follows their line. -/
def pair? (p : Progress) (text : List Char) : Option (Progress × List Char) :=
  match key? text with
  | some (key, '=' :: rest) =>
    match value? (2 * text.length + 2) depthLimit (skipBlanks rest) with
    | some (value, rest) =>
      match p.add? key value, endLine? rest with
      | some p, some rest => some (p, rest)
      | _, _ => none
    | none => none
  | _ => none

/-- The tree of at most `fuel` lines. -/
def lines? (fuel : Nat) (p : Progress) (text : List Char) : Option Members :=
  match fuel with
  | 0 => none
  | fuel + 1 =>
    match skipBlanks text with
    | [] => some p.root
    | '#' :: rest => (endLine? ('#' :: rest)).bind (lines? fuel p)
    | '[' :: rest => (header? p rest).bind fun (p, rest) => lines? fuel p rest
    | c :: rest =>
      match afterBreak? (c :: rest) with
      | some next => lines? fuel p next
      | none => (pair? p (c :: rest)).bind fun (p, rest) => lines? fuel p rest

/-- The characters of a text without a byte order mark. -/
def body (text : String) : List Char :=
  match text.toList with
  | c :: rest => if c.toNat = 0xfeff then rest else c :: rest
  | [] => []

/-- The document of a text. -/
def read? (text : String) : Option Document :=
  let content := body text
  (lines? (content.length + 2) ⟨[], []⟩ content).map fun members => .table (membersDocument members)

end Toml

end Failover
