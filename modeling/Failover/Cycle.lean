import Failover.World

/-!
# Probe cycles

A cycle sends one probe to every endpoint at once, whatever its breaker or its health, and reports
each outcome to the tracker when it arrives. An answer of null counts as a failure. Probes are not
retried. A fault in one probe ends the whole cycle.
-/

namespace Failover

/-- What one probe of a cycle does at the moment. -/
inductive ProbePhase where
  | unsent
  /-- On its way since a time. -/
  | waiting (since : Nat) (settled : Rpc.Settled)
  | done

/-- The state of a cycle. -/
inductive CyclePhase where
  /-- The probes by index. -/
  | running (probes : List ProbePhase)
  | faulted (f : Fault)

/-- A cycle in progress. -/
structure Cycle where
  method : String
  phase : CyclePhase

namespace Cycle

variable {σ : Type}

/-- A cycle over so many endpoints that has sent nothing yet. -/
def start (method : String) (count : Nat) : Cycle := ⟨method, .running (List.replicate count .unsent)⟩

/-- The request of a probe. -/
def request (c : Cycle) : Rpc.Request := ⟨c.method, []⟩

/-- Whether a probe can go on at a time. -/
def isDue (now : Nat) : ProbePhase → Bool
  | .unsent => true
  | .waiting since settled => since + settled.after ≤ now
  | .done => false

/-- The time at which a probe goes on. -/
def probeWakesAt? (now : Nat) : ProbePhase → Option Nat
  | .unsent => some now
  | .waiting since settled => some (since + settled.after)
  | .done => none

/-- Whether a cycle has come to its end. -/
def isOver (c : Cycle) : Bool :=
  match c.phase with
  | .running probes => probes.all fun
    | .done => true
    | _ => false
  | .faulted _ => true

/-- The fault that ended a cycle. -/
def fault? (c : Cycle) : Option Fault :=
  match c.phase with
  | .running _ => none
  | .faulted f => some f

/-- The earliest time at which one of its probes goes on. -/
def wakesAt? (now : Nat) (c : Cycle) : Option Nat :=
  match c.phase with
  | .running probes => (probes.filterMap (probeWakesAt? now)).min?
  | .faulted _ => none

/-- The outcome of a probe: a value other than null is a success. -/
def outcome (r : Rpc.Result Json) : Rpc.Result Json :=
  match r with
  | .ok .null => .error .emptyResult
  | r => r

/-- Takes in the end of a probe. -/
def settle (setup : Setup σ) (w : World σ) (c : Cycle) (probes : List ProbePhase) (index since : Nat)
    (endpoint : Endpoint) (ending : Rpc.Ending) : World σ × Cycle × Journal :=
  let name := endpoint.displayName
  let finished : Cycle := { c with phase := .running (probes.set index .done) }
  match ending with
  | .fault f => (w, { c with phase := .faulted f }, [])
  | .result r =>
    match outcome r with
    | .ok _ =>
      let latency := Duration.ofMillis (w.now - since)
      let (next, notes) := w.recordSuccess setup index endpoint latency .probe
      (next, finished,
        .event (.probeSucceeded name latency.toMillis) :: notes ++ [.measured (.probe name true)])
    | .error failure =>
      let warning : Note := .event (.probeFailed name failure)
      let (next, notes, fault?) := w.recordFailure setup index endpoint .probe
      match fault? with
      | some fault => (next, { c with phase := .faulted fault }, warning :: notes)
      | none => (next, finished, warning :: notes ++ [.measured (.probe name false)])

/-- One step of the probe with an index. -/
def stepAt? (setup : Setup σ) (w : World σ) (c : Cycle) (index : Nat) :
    Option (World σ × Cycle × Journal) :=
  match c.phase with
  | .faulted _ => none
  | .running probes =>
    match probes[index]?, setup.registry.get? index with
    | some .unsent, some endpoint =>
      let (settled, next, notes) := w.send setup endpoint c.request
      some (next, { c with phase := .running (probes.set index (.waiting w.now settled)) }, notes)
    | some (.waiting since settled), some endpoint =>
      if since + settled.after ≤ w.now then
        some (c.settle setup w probes index since endpoint settled.ending)
      else none
    | _, _ => none

/-- The first probe that can go on. -/
def dueIndex? (now : Nat) (c : Cycle) : Option Nat :=
  match c.phase with
  | .running probes => probes.findIdx? (isDue now)
  | .faulted _ => none

/-- One step of the first probe that can go on, unless all of them have to wait. -/
def step? (setup : Setup σ) (w : World σ) (c : Cycle) : Option (World σ × Cycle × Journal) :=
  (c.dueIndex? w.now).bind (c.stepAt? setup w)

end Cycle

end Failover
