import Failover.Health.Eligibility

/-!
# Metrics

A `Measurement` is one contribution to the metrics. The metrics themselves are a fold over the
measurements: a counter adds up, a gauge keeps its last value, a histogram keeps every sample.
-/

namespace Failover

/-- How a call ended. -/
inductive CallEnd where
  | success
  | exhausted
deriving DecidableEq, Inhabited

/-- How a call ended, as a label. -/
def CallEnd.label : CallEnd → String
  | success => "success"
  | exhausted => "exhausted"

/-- Whether an attempt succeeded, as a label. -/
def outcomeLabel (succeeded : Bool) : String := if succeeded then "success" else "failure"

/-- One contribution to the metrics. An endpoint is given by its display name. -/
inductive Measurement where
  | call (method : String) (ending : CallEnd)
  | callDuration (method : String) (seconds : Float)
  | attempt (endpoint : String) (succeeded : Bool)
  | skip (endpoint : String) (reason : Eligibility)
  | health (endpoint : String) (status : HealthStatus)
  | breakerOpened (endpoint : String)
  | probe (endpoint : String) (succeeded : Bool)
deriving DecidableEq

/-- A metric with the values of its labels. -/
structure Series where
  metric : String
  labels : List (String × String)
deriving DecidableEq, Inhabited

/-- The name of the metric with its labels. -/
def Series.text (s : Series) : String :=
  s.metric ++ "\x7b" ++ ",".intercalate (s.labels.map fun l => l.1 ++ "=" ++ l.2) ++ "\x7d"

/-- The value of a series. -/
inductive Reckoning where
  | counter (n : Nat)
  | gauge (x : Float)
  | samples (xs : List Float)
deriving DecidableEq, Inhabited

namespace Measurement

/-- The series that a measurement belongs to; labels are in the order of their names. -/
def series : Measurement → Series
  | call method ending =>
    ⟨"rpc_failover_calls_total", [("method", method), ("outcome", ending.label)]⟩
  | callDuration method _ => ⟨"rpc_failover_call_duration_seconds", [("method", method)]⟩
  | attempt endpoint succeeded =>
    ⟨"rpc_failover_endpoint_attempts_total",
      [("endpoint", endpoint), ("outcome", outcomeLabel succeeded)]⟩
  | skip endpoint reason =>
    ⟨"rpc_failover_endpoint_skips_total", [("endpoint", endpoint), ("reason", reason.label)]⟩
  | health endpoint _ => ⟨"rpc_failover_endpoint_health", [("endpoint", endpoint)]⟩
  | breakerOpened endpoint => ⟨"rpc_failover_breaker_opened_total", [("endpoint", endpoint)]⟩
  | probe endpoint succeeded =>
    ⟨"rpc_failover_probes_total",
      [("endpoint", endpoint), ("outcome", outcomeLabel succeeded)]⟩

/-- The value of the series after this measurement. -/
def update (m : Measurement) (old : Option Reckoning) : Reckoning :=
  match m with
  | callDuration _ seconds =>
    match old with
    | some (.samples xs) => .samples (xs ++ [seconds])
    | _ => .samples [seconds]
  | health _ status => .gauge status.gauge
  | _ =>
    match old with
    | some (.counter n) => .counter (n + 1)
    | _ => .counter 1

end Measurement

/-- The value of each series that was measured. -/
abbrev Metrics := List (Series × Reckoning)

namespace Metrics

/-- The value of a series. -/
def value? (ms : Metrics) (s : Series) : Option Reckoning := ms.lookup s

/-- The metrics after one more measurement. -/
def record (ms : Metrics) (m : Measurement) : Metrics :=
  (m.series, m.update (ms.value? m.series)) :: ms.filter fun entry => entry.1 ≠ m.series

/-- The metrics of a list of measurements. -/
def ofMeasurements (ms : List Measurement) : Metrics := ms.foldl record []

end Metrics

end Failover
