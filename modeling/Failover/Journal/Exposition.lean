import Failover.Decimal.Notation
import Failover.Journal.Measurement
import Failover.Text.Quoted

/-!
# Exposition of metrics

The page on which metrics are read: for each metric a line with its kind and a line for each of its
series. A histogram shows the sum and the number of its samples.
-/

namespace Failover

/-- The kind of a metric. -/
def Reckoning.kind : Reckoning → String
  | counter _ => "counter"
  | gauge _ => "gauge"
  | samples _ => "summary"

/-- Numbers are written without a fraction that is zero. -/
def exposedFormat : DecimalFormat := ⟨-4, 15, false, false⟩

namespace Series

/-- The value of a label between quotes. -/
def labelText (value : String) : String :=
  let escape (c : Char) : List Char :=
    if c = '\n' then ['\\', 'n'] else if c = '"' || c = '\\' then ['\\', c] else [c]
  "\"" ++ String.ofList (value.toList.flatMap escape) ++ "\""

/-- A line of the page: a name made of the metric and an ending, the labels and a value. -/
def line (s : Series) (ending value : String) : String :=
  s.metric ++ ending ++ "\x7b" ++
    ",".intercalate (s.labels.map fun l => l.1 ++ "=" ++ labelText l.2) ++ "\x7d " ++ value ++ "\n"

/-- The lines of a series. -/
def lines (s : Series) : Reckoning → String
  | .counter n => s.line "" (toString n)
  | .gauge x => s.line "" (exposedFormat.render x)
  | .samples xs =>
    s.line "_sum" (exposedFormat.render (xs.foldl (· + ·) 0)) ++ s.line "_count" (toString xs.length)

end Series

namespace Metrics

/-- The part of the page about one metric. -/
def section? (ms : Metrics) (metric : String) : Option String :=
  let own := ms.filter fun entry => entry.1.metric = metric
  own.head?.map fun first =>
    "# TYPE " ++ metric ++ " " ++ first.2.kind ++ "\n" ++
      String.join (own.map fun entry => entry.1.lines entry.2) ++ "\n"

/-- The page. -/
def exposition (ms : Metrics) : String :=
  String.join ((ms.map fun entry => entry.1.metric).eraseDups.filterMap ms.section?)

end Metrics

end Failover
