/-!
# Command line arguments

A command accepts one option with a value, a request for help, and words. `--` makes words of all
arguments behind it. Arguments are taken from left to right, and the first one that asks for help or
is wrong decides, except that the value of an option is only looked at together with the next
argument.
-/

namespace Failover

namespace Command

/-- An option with a value. -/
structure ValuedOption where
  long : String
  short : Char
  allowsEmpty : Bool

/-- What a command accepts. -/
structure Grammar where
  option : Option ValuedOption
  /-- Whether the first word ends the scan. -/
  stopsAtWord : Bool
  /-- The greatest number of words, if there is one. -/
  wordLimit : Option Nat

/-- Why a scan ends early. -/
inductive Stop where
  | help
  | misuse
deriving DecidableEq, Inhabited

/-- What a scan has found so far. -/
structure Found where
  /-- The value of the option. -/
  value : Option String
  /-- A value that has not been looked at yet. -/
  pending : Option String
  /-- The words, the latest first. -/
  words : List String
deriving DecidableEq, Inhabited

/-- A single argument. -/
inductive Piece where
  | escape
  | help
  /-- The option, with its value if that is part of the argument. -/
  | option (attached : Option String)
  | unknown
  | word (text : String)
deriving DecidableEq, Inhabited

/-- Whether an argument cannot be the value of an option in front of it. -/
def looksLikeFlag (argument : String) : Bool :=
  match argument.toList with
  | '-' :: _ :: _ => true
  | _ => false

/-- The text behind an equals sign, if there is one. -/
def attachment? : List Char → Option String
  | '=' :: text => some (String.ofList text)
  | _ => none

/-- What an argument is. -/
def Grammar.classify (g : Grammar) (argument : String) : Piece :=
  match argument.toList with
  | ['-', '-'] => .escape
  | '-' :: '-' :: text =>
    let name := String.ofList (text.takeWhile (· != '='))
    let attached := attachment? (text.drop name.length)
    if g.option.any fun o => o.long = name then .option attached
    else if name = "help" ∧ attached.isNone then .help
    else .unknown
  | '-' :: c :: text =>
    if g.option.any fun o => o.short = c then
      .option (if text.isEmpty then none else some ((attachment? text).getD (String.ofList text)))
    else if c = 'h' then .help
    else .unknown
  | _ => .word argument

namespace Found

/-- Nothing. -/
def nothing : Found := ⟨none, none, []⟩

/-- Takes a value in. The option may stand only once. -/
def take (g : Grammar) (f : Found) (value : String) : Except Stop Found :=
  if f.value.isSome ∨ (value = "" ∧ !g.option.any ValuedOption.allowsEmpty) then .error .misuse
  else .ok { f with value := some value }

/-- Takes in the value that has not been looked at yet. -/
def settle (g : Grammar) (f : Found) : Except Stop Found :=
  match f.pending with
  | none => .ok f
  | some value => { f with pending := none }.take g value

/-- Takes a word in. -/
def push (g : Grammar) (f : Found) (word : String) : Except Stop Found :=
  if g.wordLimit.any fun limit => decide (limit ≤ f.words.length) then .error .misuse
  else .ok { f with words := word :: f.words }

end Found

/-- Scans arguments: what was found, and the arguments from the first word on if that ends the scan.
-/
def Grammar.scan (g : Grammar) (f : Found) : List String → Except Stop (Found × List String)
  | [] => (f.settle g).map fun f => (f, [])
  | argument :: rest =>
    match g.classify argument with
    | .word w =>
      if g.stopsAtWord then .ok (f, argument :: rest)
      else
        match f.settle g with
        | .error stop => .error stop
        | .ok f =>
          match f.push g w with
          | .error stop => .error stop
          | .ok f => g.scan f rest
    | .escape =>
      match f.settle g with
      | .error stop => .error stop
      | .ok f => (rest.foldlM (Found.push g) f).map fun f => (f, [])
    | .help =>
      match f.settle g with
      | .error stop => .error stop
      | .ok _ => .error .help
    | .unknown => .error .misuse
    | .option (some value) =>
      match (f.settle g).bind fun f => f.take g value with
      | .error stop => .error stop
      | .ok f => g.scan f rest
    | .option none =>
      match f.settle g with
      | .error stop => .error stop
      | .ok f =>
        match rest with
        | [] => .error .misuse
        | value :: rest =>
          if looksLikeFlag value then .error .misuse
          else g.scan { f with pending := some value } rest

end Command

end Failover
