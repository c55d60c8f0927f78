import Failover.Json.Token

/-!
# Outlines of JSON texts

An `Outline` is the tree of a JSON text whose scalars and keys are still in their written form. It
is built by a machine that keeps the open containers on a stack, so nesting is not limited; a reader
that cares for the values sets its own limit.
-/

namespace Failover

namespace Json

/-- A JSON text as a tree with its scalars as written. -/
inductive Outline where
  | scalar (token : Token)
  | array (items : List Outline)
  /-- The members in the order of the text, with keys as written. -/
  | object (members : List (List UInt8 × Outline))
deriving Inhabited

namespace Outline

/-- A container that is still open, with its contents in reverse. -/
inductive Frame where
  | array (items : List Outline)
  | object (members : List (List UInt8 × Outline)) (key : List UInt8)

/-- What the next token has to be. -/
inductive Expected where
  | value
  /-- A value or the end of an empty array. -/
  | firstItem
  /-- A key or the end of an empty object. -/
  | firstKey (members : List (List UInt8 × Outline))
  | key (members : List (List UInt8 × Outline))
  | colon (members : List (List UInt8 × Outline)) (key : List UInt8)
  /-- A comma or the end of the container around this value; nothing if there is none. -/
  | continuation (done : Outline)

/-- The open containers, the innermost first, and what comes next. -/
structure State where
  stack : List Frame
  expected : Expected

/-- The start of a value. -/
def begin? (stack : List Frame) (token : Token) : Option State :=
  match token with
  | .openBrace => some ⟨stack, .firstKey []⟩
  | .openBracket => some ⟨.array [] :: stack, .firstItem⟩
  | .closeBrace | .closeBracket | .colon | .comma => none
  | leaf => some ⟨stack, .continuation (.scalar leaf)⟩

/-- One token. -/
def step? (state : State) (token : Token) : Option State :=
  match state.expected with
  | .value => begin? state.stack token
  | .firstItem =>
    match token, state.stack with
    | .closeBracket, .array _ :: outer => some ⟨outer, .continuation (.array [])⟩
    | _, _ => begin? state.stack token
  | .firstKey members =>
    match token with
    | .string key => some ⟨state.stack, .colon members key⟩
    | .closeBrace => some ⟨state.stack, .continuation (.object [])⟩
    | _ => none
  | .key members =>
    match token with
    | .string key => some ⟨state.stack, .colon members key⟩
    | _ => none
  | .colon members key =>
    match token with
    | .colon => some ⟨.object members key :: state.stack, .value⟩
    | _ => none
  | .continuation done =>
    match token, state.stack with
    | .comma, .array items :: outer => some ⟨.array (done :: items) :: outer, .value⟩
    | .comma, .object members key :: outer => some ⟨outer, .key ((key, done) :: members)⟩
    | .closeBracket, .array items :: outer =>
      some ⟨outer, .continuation (.array (done :: items).reverse)⟩
    | .closeBrace, .object members key :: outer =>
      some ⟨outer, .continuation (.object ((key, done) :: members).reverse)⟩
    | _, _ => none

/-- The tree that the tokens complete. -/
def run? (state : State) : List Token → Option Outline
  | [] =>
    match state.stack, state.expected with
    | [], .continuation done => some done
    | _, _ => none
  | token :: rest =>
    match step? state token with
    | none => none
    | some next => run? next rest

/-- The tree of a text that is one JSON value. -/
def ofBytes? (bytes : List UInt8) : Option Outline :=
  match Token.ofBytes? bytes with
  | none => none
  | some tokens => run? ⟨[], .value⟩ tokens

end Outline

end Json

end Failover
