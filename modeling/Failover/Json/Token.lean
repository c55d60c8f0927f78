/-!
# JSON tokens

A JSON text is cut into tokens by a machine that reads it octet by octet. A number or a string stays
in its written form: only its shape is checked here, while escapes, surrogates and ranges are the
business of whoever wants the value.
-/

namespace Failover

namespace Json

/-- A token of a JSON text. -/
inductive Token where
  | openBrace
  | closeBrace
  | openBracket
  | closeBracket
  | colon
  | comma
  | null
  | truth (b : Bool)
  /-- A number as written. -/
  | number (text : List UInt8)
  /-- A string as written, without its quotes. -/
  | string (text : List UInt8)
deriving DecidableEq

namespace Lexer

/-- How much of a number has been read. -/
inductive NumberPart where
  | sign
  | zero
  | whole
  | point
  | fraction
  | exponentMark
  | exponentSign
  | exponent
deriving DecidableEq

/-- Whether a number may end here. -/
def NumberPart.complete : NumberPart → Bool
  | .zero | .whole | .fraction | .exponent => true
  | _ => false

/-- Where the machine stands inside an escape of a string. -/
inductive Escape where
  | none
  | begun
  /-- So many hexadecimal digits are still owed. -/
  | hex (owed : Nat)
deriving DecidableEq

/-- What the machine is reading; texts are kept in reverse. -/
inductive State where
  | between
  | word (rest : List UInt8) (token : Token)
  | number (part : NumberPart) (text : List UInt8)
  | string (escape : Escape) (text : List UInt8)
deriving DecidableEq

/-- Space, tab, line feed or carriage return. -/
def isBlank (b : UInt8) : Bool := b == 32 || b == 9 || b == 10 || b == 13

/-- A decimal digit. -/
def isDigit (b : UInt8) : Bool := 48 ≤ b && b ≤ 57

/-- A hexadecimal digit of either case. -/
def isHexDigit (b : UInt8) : Bool := isDigit b || (97 ≤ b && b ≤ 102) || (65 ≤ b && b ≤ 70)

/-- The part of a number that `b` leads to. -/
def NumberPart.extend? (part : NumberPart) (b : UInt8) : Option NumberPart :=
  let exponentMark := b == 101 || b == 69
  match part with
  | .sign => if b == 48 then some .zero else if isDigit b then some .whole else none
  | .zero => if b == 46 then some .point else if exponentMark then some .exponentMark else none
  | .whole =>
    if isDigit b then some .whole else if b == 46 then some .point
    else if exponentMark then some .exponentMark else none
  | .point => if isDigit b then some .fraction else none
  | .fraction =>
    if isDigit b then some .fraction else if exponentMark then some .exponentMark else none
  | .exponentMark =>
    if b == 43 || b == 45 then some .exponentSign else if isDigit b then some .exponent else none
  | .exponentSign | .exponent => if isDigit b then some .exponent else none

/-- The first octet of a token. Punctuation is a token of its own. -/
def start? (b : UInt8) : Option (Option Token × State) :=
  if isBlank b then some (none, .between)
  else if b == 123 then some (some .openBrace, .between)
  else if b == 125 then some (some .closeBrace, .between)
  else if b == 91 then some (some .openBracket, .between)
  else if b == 93 then some (some .closeBracket, .between)
  else if b == 58 then some (some .colon, .between)
  else if b == 44 then some (some .comma, .between)
  else if b == 34 then some (none, .string .none [])
  else if b == 110 then some (none, .word [117, 108, 108] .null)
  else if b == 116 then some (none, .word [114, 117, 101] (.truth true))
  else if b == 102 then some (none, .word [97, 108, 115, 101] (.truth false))
  else if b == 45 then some (none, .number .sign [b])
  else if b == 48 then some (none, .number .zero [b])
  else if isDigit b then some (none, .number .whole [b])
  else none

/-- One octet of a string. -/
def stringStep? (escape : Escape) (text : List UInt8) (b : UInt8) : Option (Option Token × State) :=
  match escape with
  | .none =>
    if b == 34 then some (some (.string text.reverse), .between)
    else if b == 92 then some (none, .string .begun (b :: text))
    else if b < 32 then none
    else some (none, .string .none (b :: text))
  | .begun =>
    if b == 117 then some (none, .string (.hex 4) (b :: text))
    else if [34, 92, 47, 98, 102, 110, 114, 116].contains b then
      some (none, .string .none (b :: text))
    else none
  | .hex owed =>
    if isHexDigit b then some (none, .string (if owed ≤ 1 then .none else .hex (owed - 1)) (b :: text))
    else none

/-- One octet: the tokens that it ends and the next state, or `none` if it cannot stand here. -/
def step? (state : State) (b : UInt8) : Option (List Token × State) :=
  match state with
  | .between => (start? b).map fun (token, next) => (token.toList, next)
  | .word rest token =>
    match rest with
    | [] => none
    | [last] => if b == last then some ([token], .between) else none
    | c :: rest => if b == c then some ([], .word rest token) else none
  | .number part text =>
    match part.extend? b with
    | some next => some ([], .number next (b :: text))
    | none =>
      if part.complete && !isDigit b then
        (start? b).map fun (token, next) => (.number text.reverse :: token.toList, next)
      else none
  | .string escape text => (stringStep? escape text b).map fun (token, next) => (token.toList, next)

/-- The tokens of the octets, with those already found in reverse. -/
def run? (found : List Token) (state : State) : List UInt8 → Option (List Token)
  | [] =>
    match state with
    | .between => some found.reverse
    | .number part text => if part.complete then some (.number text.reverse :: found).reverse else none
    | _ => none
  | b :: rest =>
    match step? state b with
    | none => none
    | some (tokens, next) => run? (tokens.reverse ++ found) next rest

end Lexer

/-- The tokens of a text, if it is made of tokens. -/
def Token.ofBytes? (bytes : List UInt8) : Option (List Token) := Lexer.run? [] .between bytes

end Json

end Failover
