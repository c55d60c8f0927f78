import Failover.Json.Printer
import Failover.Journal.Note

/-!
# Log lines

A `LogLine` is an event with the part of the program that reports it. It is written as JSON or as a
sentence followed by its fields.
-/

namespace Failover

/-- A line of a log. -/
structure LogLine where
  level : Level
  target : String
  text : String
  fields : List (String × Field)
deriving DecidableEq

namespace Field

/-- Numbers between `0.0001` and sixteen digits in front of the point are written positionally. -/
def realFormat : DecimalFormat := ⟨-4, 15, true, false⟩

/-- The field in a sentence. -/
def sentenceText : Field → String
  | plain text => text
  | quoted text => Text.quoted text
  | count n => toString n
  | real x => if x.isFinite then realFormat.render x else toString x

/-- The field as JSON. -/
def toJson : Field → Json
  | plain text | quoted text => .string text
  | count n => .int n
  | real x => .float x

end Field

namespace LogLine

/-- The line of an event of the library. -/
def ofEvent (e : Event) : LogLine := ⟨e.level, e.target, e.text, e.fields⟩

/-- The lines of a journal. -/
def ofJournal (j : Journal) : List LogLine := j.events.map ofEvent

/-- The line as a sentence: its text and its fields. -/
def sentence (l : LogLine) : String :=
  " ".intercalate (l.text :: l.fields.map fun f => f.1 ++ "=" ++ f.2.sentenceText)

/-- The text and the fields as JSON. -/
def members (l : LogLine) : Json :=
  Json.ofMembers (("message", .string l.text) :: l.fields.map fun f => (f.1, f.2.toJson))

end LogLine

end Failover
