import Failover.Journal.Line
import Failover.Time.Timestamp

/-!
# Styles of a log

A log is written as JSON, one object a line, or as sentences. Sentences may be coloured: the colour
of a level tells it apart at a glance, and what frames the text is dimmed.
-/

namespace Failover

/-- How log lines are written. -/
inductive LogStyle where
  | json
  /-- As sentences, maybe in colour. -/
  | sentences (inColour : Bool)
deriving DecidableEq, Inhabited

/-- The terminal colour of a level. -/
def Level.colour : Level → Nat
  | trace => 35
  | debug => 34
  | info => 32
  | warn => 33
  | error => 31

namespace Terminal

/-- A text in the style with a number. -/
def styled (style : Nat) (text : String) : String := s!"\x1b[{style}m{text}\x1b[0m"

/-- A text that stands back. -/
def dimmed (text : String) : String := styled 2 text

/-- A slanted text. -/
def slanted (text : String) : String := styled 3 text

end Terminal

open Terminal

namespace LogLine

/-- The level, filled up to five characters in front. -/
def levelText (l : LogLine) : String :=
  String.ofList (List.replicate (5 - l.level.label.length) ' ') ++ l.level.label

/-- The line as a JSON object whose members come in a fixed order. -/
def jsonText (l : LogLine) (time : Timestamp) : String :=
  let member (name : String) (v : Json) : String := (Json.string name).compact ++ ":" ++ v.compact
  let object (members : List String) : String := "\x7b" ++ ",".intercalate members ++ "\x7d"
  object
    [member "timestamp" (.string time.toMicroText),
      member "level" (.string l.level.label),
      "\"fields\":" ++
        object (member "message" (.string l.text) :: l.fields.map fun f => member f.1 f.2.toJson),
      member "target" (.string l.target)]

/-- The line as a sentence behind its time, its level and its origin. -/
def plainText (l : LogLine) (time : Timestamp) : String :=
  " ".intercalate [time.toMicroText, l.levelText, l.target ++ ":", l.sentence]

/-- The line as a coloured sentence; the names of fields are slanted. -/
def colourText (l : LogLine) (time : Timestamp) : String :=
  let field (f : String × Field) : String := slanted f.1 ++ dimmed "=" ++ f.2.sentenceText
  " ".intercalate
    (dimmed time.toMicroText :: styled l.level.colour l.levelText ::
      (dimmed l.target ++ dimmed ":") :: l.text :: l.fields.map field)

/-- The line as it is written at a time. -/
def render (style : LogStyle) (time : Timestamp) (l : LogLine) : String :=
  match style with
  | .json => l.jsonText time
  | .sentences true => l.colourText time
  | .sentences false => l.plainText time

end LogLine

end Failover
