import Failover.Breaker
import Failover.Endpoint
import Failover.Fault
import Failover.Health.Record
import Failover.Health.Report
import Failover.Journal.Note
import Failover.Registry
import Failover.Time.Clock

/-!
# Health tracking

A `Tracker` keeps the health record of every endpoint by its index and the breakers by URL. Calls
and probes report what they observe to it. A call success closes the breaker of the endpoint, a
probe success leaves it alone, and a failure of either kind that reaches the threshold opens it.
Only calls count as requests.
-/

namespace Failover

/-- Who made an observation. -/
inductive Observer where
  | call
  | probe
deriving DecidableEq, Inhabited

/-- The health records by index and the breakers by URL. -/
structure Tracker where
  records : List HealthRecord
  breakers : BreakerTable
  /-- The number of failures in a row from which an endpoint is unhealthy. -/
  threshold : Nat
  threshold_pos : 0 < threshold
deriving DecidableEq

namespace Tracker

/-- The tracker of endpoints that were never observed. The threshold is at least one. -/
def new (count : Nat) (threshold : UInt32) (timeout : Duration) : Tracker where
  records := List.replicate count .initial
  breakers := .empty timeout
  threshold := max threshold.toNat 1
  threshold_pos := by omega

instance : Inhabited Tracker := ⟨new 0 1 Duration.zero⟩

/-- The record at an index. -/
def record? (t : Tracker) (index : Nat) : Option HealthRecord := t.records[index]?

/-- The record at an index; an endpoint without one was never observed. -/
def recordAt (t : Tracker) (index : Nat) : HealthRecord := (t.record? index).getD .initial

/-- Replaces the record at an index. -/
def setRecord (t : Tracker) (index : Nat) (r : HealthRecord) : Tracker :=
  { t with records := t.records.set index r }

/-- Replaces the breakers. -/
def setBreakers (t : Tracker) (b : BreakerTable) : Tracker := { t with breakers := b }

/-- What a check of a breaker leaves in the journal. -/
def checkNotes (key : String) : BreakerCheck → Journal
  | .elapsed => [.event (.breakerElapsed key)]
  | _ => []

/-- Whether the breaker of an endpoint is open. A breaker whose time has come is closed. -/
def isOpen (t : Tracker) (now : Instant) (endpoint : Endpoint) : Bool × Tracker × Journal :=
  let (found, breakers) := t.breakers.check endpoint.url now
  (found.isOpen, t.setBreakers breakers, checkNotes endpoint.url found)

/-- Whether a call may try the endpoint at an index. -/
def eligibility (t : Tracker) (now : Instant) (index : Nat) (endpoint : Endpoint) (isLast : Bool) :
    Eligibility × Tracker × Journal :=
  let (open?, next, notes) := t.isOpen now endpoint
  (Eligibility.judge (t.recordAt index).status open? isLast, next, notes)

/-- The record with one more request, if a call made the observation. -/
def countRequest (observer : Observer) (succeeded : Bool) (r : HealthRecord) : HealthRecord :=
  match observer with
  | .probe => r
  | .call =>
    { r with
      totalRequests := r.totalRequests + 1
      successfulRequests := r.successfulRequests + (if succeeded then 1 else 0) }

/-- Takes in a success at an index. An index without a record changes nothing. -/
def recordSuccess (t : Tracker) (now : Reading) (index : Nat) (endpoint : Endpoint)
    (latency : Duration) (observer : Observer) : Tracker × Journal :=
  match t.record? index with
  | none => (t, [])
  | some r =>
    let marked := t.setRecord index ((countRequest observer true r).succeed latency now.wall)
    let health : Note := .measured (.health endpoint.displayName .healthy)
    match observer with
    | .probe => (marked, [health])
    | .call =>
      (marked.setBreakers (t.breakers.erase endpoint.url),
        (if r.status = .healthy then []
          else [.event (.endpointRecovered endpoint.displayName r.status)]) ++ [health])

/-- Takes in a failure at an index. When the record becomes unhealthy the breaker of the endpoint
opens; if the clock cannot show the end of that, the failure stays recorded and a fault is the
result. -/
def recordFailure (t : Tracker) (now : Reading) (index : Nat) (endpoint : Endpoint)
    (observer : Observer) : Tracker × Journal × Option Fault :=
  match t.record? index with
  | none => (t, [], none)
  | some r =>
    let failed := (countRequest observer false r).fail t.threshold now.wall
    let marked := t.setRecord index failed
    let health : Note := .measured (.health endpoint.displayName failed.status)
    if failed.status = .unhealthy then
      match t.breakers.trip? endpoint.url now.instant with
      | none => (marked, [], some .clockOverflow)
      | some (_, breakers) =>
        (marked.setBreakers breakers,
          [.event (.breakerOpened endpoint.displayName failed.consecutiveFailures),
            .measured (.breakerOpened endpoint.displayName), health],
          none)
    else (marked, [health], none)

/-- The entry of a report for the endpoint at an index. -/
def statusOf (endpoint : Endpoint) (r : HealthRecord) (circuitOpen : Bool) : EndpointStatus where
  name := endpoint.displayName
  url := endpoint.url
  priority := endpoint.priority
  status := r.status
  lastSuccess := r.lastSuccess
  lastFailure := r.lastFailure
  consecutiveFailures := r.consecutiveFailures
  totalRequests := r.totalRequests
  successfulRequests := r.successfulRequests
  successRate := r.successRate
  avgLatencyMs := r.avgLatencyMs
  circuitOpen := circuitOpen

/-- The entries of a report for endpoints that start at an index. -/
def statuses (now : Instant) (t : Tracker) (index : Nat) :
    List Endpoint → List EndpointStatus × Tracker × Journal
  | [] => ([], t, [])
  | endpoint :: rest =>
    let (circuitOpen, next, notes) := t.isOpen now endpoint
    let entry := statusOf endpoint (t.recordAt index) circuitOpen
    let (entries, last, more) := statuses now next (index + 1) rest
    (entry :: entries, last, notes ++ more)

/-- The report on every endpoint of a registry. -/
def snapshot (t : Tracker) (now : Instant) (registry : Registry) :
    StatusReport × Tracker × Journal :=
  let (entries, next, notes) := statuses now t 0 registry.endpoints
  (⟨entries⟩, next, notes)

/-! ## What each operation reads and changes -/

section Operations

variable (t : Tracker) (now : Instant) (time : Reading) (index : Nat) (endpoint : Endpoint)

@[simp] theorem setRecord_breakers (r : HealthRecord) :
    (t.setRecord index r).breakers = t.breakers := rfl

@[simp] theorem setBreakers_breakers (b : BreakerTable) : (t.setBreakers b).breakers = b := rfl

/-- The breaker of an endpoint is open as long as the entry of its URL lies ahead. -/
theorem isOpen_fst :
    (t.isOpen now endpoint).1 = (t.breakers.until? endpoint.url).any now.before :=
  BreakerTable.isOpen_check ..

/-- Asking for a breaker leaves the table that checking its key leaves. -/
@[simp] theorem isOpen_breakers :
    (t.isOpen now endpoint).2.1.breakers = (t.breakers.check endpoint.url now).2 := rfl

/-- The verdict rests on the status, on the breaker and on whether the endpoint is the last one. -/
theorem eligibility_fst (isLast : Bool) :
    (t.eligibility now index endpoint isLast).1 =
      .judge (t.recordAt index).status (t.isOpen now endpoint).1 isLast := rfl

/-- A check at the same time finds every breaker as it was before another check. -/
theorem any_until?_isOpen (key : String) :
    ((t.isOpen now endpoint).2.1.breakers.until? key).any now.before =
      (t.breakers.until? key).any now.before := by
  rw [isOpen_breakers, BreakerTable.until?_check]
  split
  · cases t.breakers.until? key with
    | none => rfl
    | some u => cases h : now.before u <;> simp [Option.filter, h]
  · rfl

/-- A survey shows every record with its breaker as they were before it. -/
theorem statuses_fst (endpoints : List Endpoint) :
    (statuses now t index endpoints).1 =
      (endpoints.zipIdx index).map fun (e, i) =>
        statusOf e (t.recordAt i) ((t.breakers.until? e.url).any now.before) := by
  induction endpoints generalizing t index with
  | nil => rfl
  | cons e rest ih =>
    show statusOf e (t.recordAt index) (t.isOpen now e).1 ::
      (statuses now (t.isOpen now e).2.1 (index + 1) rest).1 = _
    rw [ih, isOpen_fst]
    simp only [any_until?_isOpen, List.zipIdx_cons, List.map_cons]
    rfl

/-- A survey leaves the records alone. -/
theorem statuses_records (endpoints : List Endpoint) :
    (statuses now t index endpoints).2.1.records = t.records := by
  induction endpoints generalizing t index with
  | nil => rfl
  | cons e rest ih => exact ih (t.isOpen now e).2.1 (index + 1)

/-- A survey of endpoints keeps the threshold. -/
theorem statuses_threshold (endpoints : List Endpoint) :
    (statuses now t index endpoints).2.1.threshold = t.threshold := by
  induction endpoints generalizing t index with
  | nil => rfl
  | cons e rest ih => exact ih (t.isOpen now e).2.1 (index + 1)

/-- A survey of endpoints keeps the breaker timeout. -/
theorem statuses_timeout (endpoints : List Endpoint) :
    (statuses now t index endpoints).2.1.breakers.timeout = t.breakers.timeout := by
  induction endpoints generalizing t index with
  | nil => rfl
  | cons e rest ih =>
    show (statuses now (t.isOpen now e).2.1 (index + 1) rest).2.1.breakers.timeout = _
    rw [ih, isOpen_breakers, BreakerTable.check_timeout]

/-- A survey takes away the entries of its URLs whose time has come, and no other. -/
theorem until?_statuses (endpoints : List Endpoint) (key : String) :
    (statuses now t index endpoints).2.1.breakers.until? key =
      if endpoints.any (fun e => e.url = key) then (t.breakers.until? key).filter now.before
      else t.breakers.until? key := by
  induction endpoints generalizing t index with
  | nil => rfl
  | cons e rest ih =>
    show (statuses now (t.isOpen now e).2.1 (index + 1) rest).2.1.breakers.until? key = _
    rw [ih, isOpen_breakers, BreakerTable.until?_check, List.any_cons]
    by_cases he : e.url = key
    · cases rest.any (fun e => e.url = key) <;> simp [he, Option.filter_filter]
    · have hne : key ≠ e.url := Ne.symm he
      simp [he, hne]

end Operations

end Tracker

end Failover
