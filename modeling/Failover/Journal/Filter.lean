import Failover.Journal.Line
import Failover.Text.Blank

/-!
# Log filters

A filter is a list of directives between commas, such as `warn,net=debug`. A directive sets the
least severe level that is logged, for all targets or for those that begin with a text. The longest
target that fits decides, and of two directives for one target the later one.
-/

namespace Failover

/-- How talkative a level is. -/
def Level.verbosity : Level → Nat
  | error => 1
  | warn => 2
  | info => 3
  | debug => 4
  | trace => 5

/-- Sets the levels that are logged for some targets. -/
structure LogDirective where
  /-- What targets have to begin with; `none` stands for all targets. -/
  target : Option String
  /-- The most talkative level that is logged. -/
  verbosity : Nat
  /-- Whether only what happens inside of certain spans is meant. -/
  isScoped : Bool
deriving DecidableEq, Inhabited

/-- A list of directives. -/
structure LogFilter where
  directives : List LogDirective
deriving DecidableEq, Inhabited

namespace LogDirective

/-- The names of the levels, and of none. -/
def levelNames : List (String × Nat) :=
  [("off", 0), ("error", 1), ("warn", 2), ("info", 3), ("debug", 4), ("trace", 5)]

/-- The number that decimal digits stand for, maybe with a plus sign. -/
def number? (text : List Char) : Option Nat :=
  let digits :=
    match text with
    | '+' :: rest => rest
    | digits => digits
  if digits.isEmpty ∨ digits.any (fun c => !c.isDigit) then none
  else some (digits.foldl (fun n c => n * 10 + (c.toNat - 48)) 0)

/-- The level that a text names, by a number or by a name in any case. -/
def verbosity? (text : List Char) : Option Nat :=
  match (number? text).filter (· ≤ 5) with
  | some n => some n
  | none => levelNames.lookup (String.ofList (text.map Char.toLower))

/-- Whether a directive may begin with a character. -/
def mayBegin (c : Char) : Bool := c = '-' || c = ':' || c = '_' || c.isAlphanum || 0x80 ≤ c.toNat

/-- The level behind an equals sign; everything if there is none. -/
def levelOrAll? (text : List Char) : Option Nat := if text.isEmpty then some 5 else verbosity? text

/-- What follows the bracket that closes a span: maybe an equals sign and a level. -/
def afterSpan? : List Char → Option Nat
  | [] => some 5
  | '=' :: text => levelOrAll? text
  | _ => none

/-- The level of a directive of which the opening bracket of its span has been read. -/
def spanned? (text : List Char) : Option Nat :=
  let span := text.takeWhile fun c => c != ']' && c != '{'
  match text.drop span.length with
  | ']' :: rest => afterSpan? rest
  | '{' :: rest =>
    let fields := rest.takeWhile (· != '}')
    match rest.drop fields.length with
    | '}' :: ']' :: rest => if fields.isEmpty then none else afterSpan? rest
    | _ => none
  | _ => none

/-- A directive. Blanks at its end do not count, but those in front of it shift what is read. -/
def ofText? (text : List Char) : Option LogDirective :=
  let trimmed := ((text.dropWhile Text.isBlankChar).reverse.dropWhile Text.isBlankChar).reverse
  match trimmed with
  | [] => none
  | '[' :: rest => (spanned? rest).map fun v => ⟨none, v, true⟩
  | first :: _ =>
    if !mayBegin first then none
    else
      let head := trimmed.takeWhile fun c => c != '=' && c != '['
      let target := String.ofList (text.take head.length)
      match trimmed.drop head.length with
      | [] =>
        match verbosity? text with
        | some v => some ⟨none, v, false⟩
        | none => some ⟨some (String.ofList text), 5, false⟩
      | '=' :: _ =>
        (levelOrAll? (text.drop (head.length + 1))).map fun v => ⟨some target, v, false⟩
      | _ :: rest => (spanned? rest).map fun v => ⟨some target, v, true⟩

/-- The number of characters that targets have to begin with; `none` comes before all numbers. -/
def specificity (d : LogDirective) : Nat :=
  match d.target with
  | none => 0
  | some target => target.utf8ByteSize + 1

/-- Whether a directive decides about a target. -/
def covers (d : LogDirective) (target : String) : Bool :=
  !d.isScoped && d.target.all fun beginning => beginning.toList.isPrefixOf target.toList

end LogDirective

namespace LogFilter

/-- The directives of a text. -/
def parts (text : String) : List (List Char) :=
  (text.toList.splitOn ',').filter fun part => !part.isEmpty

/-- The filter of a text all of whose directives are well formed. -/
def ofText? (text : String) : Option LogFilter :=
  ((parts text).mapM LogDirective.ofText?).map LogFilter.mk

/-- The filter of a text without the directives that are not well formed. -/
def ofTextLossy (text : String) : LogFilter := ⟨(parts text).filterMap LogDirective.ofText?⟩

/-- The directive that decides about a target among those from the first one on. -/
def decisive? (target : String) (directives : List LogDirective) : Option LogDirective :=
  directives.foldl (fun best d =>
    if !d.covers target then best
    else if best.all fun b => decide (b.specificity ≤ d.specificity) then some d
    else best) none

/-- Whether something of a level is logged for a target. Without any directives errors are. -/
def allows (f : LogFilter) (level : Level) (target : String) : Bool :=
  if f.directives.isEmpty then level = .error
  else (decisive? target f.directives).any fun d => decide (level.verbosity ≤ d.verbosity)

/-- The lines that are logged. -/
def select (f : LogFilter) (lines : List LogLine) : List LogLine :=
  lines.filter fun l => f.allows l.level l.target

end LogFilter

end Failover
