import Failover.World

/-!
# Calls

A call walks the endpoints in registry order. At each index it asks the tracker whether it may try
the endpoint; a visit then makes attempts until one succeeds or the policy ends them. The first
success ends the call, and a visit that failed moves it on to the next index.

A call advances in steps, between which it waits: for the end of a request or for the end of a
pause. Other calls and probes may change the tracker while it waits.
-/

namespace Failover

/-- How a call ended. -/
inductive CallResult where
  | value (v : Json)
  | error (e : Error)
  | fault (f : Fault)

/-- What a call does at the moment. -/
inductive CallPhase where
  /-- It is about to look at the endpoint with this index. -/
  | looking (index : Nat)
  /-- Attempt `attempt` at an endpoint is on its way since a time. -/
  | waiting (index attempt since : Nat) (settled : Rpc.Settled)
  /-- It pauses until a time before attempt `attempt`. -/
  | pausing (index attempt endsAt : Nat)
  | ended (result : CallResult)

/-- A call in progress. -/
structure Call where
  request : Rpc.Request
  /-- The time at which it began. -/
  began : Nat
  lastFailure : Option Rpc.Failure
  phase : CallPhase

namespace Call

variable {σ : Type}

/-- The call of a request that begins at a time. -/
def start (request : Rpc.Request) (now : Nat) : Call := ⟨request, now, none, .looking 0⟩

/-- The result of a call that has ended. -/
def result? (c : Call) : Option CallResult :=
  match c.phase with
  | .ended r => some r
  | _ => none

/-- The time at which a call goes on; none if it has ended. -/
def wakesAt? (now : Nat) (c : Call) : Option Nat :=
  match c.phase with
  | .looking _ => some now
  | .waiting _ _ since settled => some (since + settled.after)
  | .pausing _ _ endsAt => some endsAt
  | .ended _ => none

/-- Makes an attempt at an endpoint. -/
def attempt (setup : Setup σ) (w : World σ) (c : Call) (index attempt : Nat) (endpoint : Endpoint) :
    World σ × Call × Journal :=
  let (settled, next, notes) := w.send setup endpoint c.request
  (next, { c with phase := .waiting index attempt w.now settled },
    .event (.sending endpoint.displayName (attempt + 1)) :: notes)

/-- The measurements of a call that ends now. -/
def endNotes (w : World σ) (c : Call) (ending : CallEnd) : Journal :=
  [.measured (.call c.request.method ending),
    .measured (.callDuration c.request.method (Duration.ofMillis (w.now - c.began)).toSeconds)]

/-- Ends a call for which there is no endpoint left. -/
def exhaust (w : World σ) (c : Call) : World σ × Call × Journal :=
  let event : Event :=
    match c.lastFailure with
    | some failure => .allFailed failure
    | none => .noneEligible
  (w, { c with phase := .ended (.error (.exhausted c.request.method c.lastFailure)) },
    .event event :: c.endNotes w .exhausted)

/-- Looks at the endpoint with an index: makes the first attempt or skips it. -/
def look (setup : Setup σ) (w : World σ) (c : Call) (index : Nat) : World σ × Call × Journal :=
  match setup.registry.get? index with
  | none => c.exhaust w
  | some endpoint =>
    let (verdict, next, notes) := w.eligibility setup index endpoint
    if verdict.allows then
      let (last, c, more) := c.attempt setup next index 0 endpoint
      (last, c, notes ++ more)
    else
      (next, { c with phase := .looking (index + 1) },
        notes ++ [.event (.endpointSkipped endpoint.displayName verdict),
          .measured (.skip endpoint.displayName verdict)])

/-- Ends a call with the value of an endpoint. -/
def succeed (setup : Setup σ) (w : World σ) (c : Call) (index since : Nat) (endpoint : Endpoint)
    (v : Json) : World σ × Call × Journal :=
  let latency := Duration.ofMillis (w.now - since)
  let (next, notes) := w.recordSuccess setup index endpoint latency .call
  (next, { c with phase := .ended (.value v) },
    notes ++ [.measured (.attempt endpoint.displayName true)] ++ c.endNotes w .success ++
      [.event (.callSucceeded endpoint.displayName latency.toMillis)])

/-- Gives an endpoint up and moves on to the next one. -/
def giveUp (setup : Setup σ) (w : World σ) (c : Call) (index : Nat) (endpoint : Endpoint)
    (failure : Rpc.Failure) : World σ × Call × Journal :=
  let warning : Note := .event (.endpointFailed endpoint.displayName failure)
  let (next, notes, fault?) := w.recordFailure setup index endpoint .call
  match fault? with
  | some fault => (next, { c with phase := .ended (.fault fault) }, warning :: notes)
  | none =>
    (next, { c with lastFailure := some failure, phase := .looking (index + 1) },
      warning :: notes ++ [.measured (.attempt endpoint.displayName false)])

/-- Takes in the end of an attempt. -/
def settle (setup : Setup σ) (w : World σ) (c : Call) (index attempt since : Nat)
    (endpoint : Endpoint) (ending : Rpc.Ending) : World σ × Call × Journal :=
  let policy := setup.policy.forEndpoint endpoint
  match ending with
  | .fault f => (w, { c with phase := .ended (.fault f) }, [])
  | .result r =>
    match policy.next attempt (setup.draw w.drawn) r with
    | .finish (.ok v) => c.succeed setup w index since endpoint v
    | .finish (.error failure) => c.giveUp setup w index endpoint failure
    | .pause length failure =>
      ({ w with drawn := w.drawn + policy.drawsPerPause },
        { c with phase := .pausing index (attempt + 1) (w.now + length.timerMillis) },
        [.event (policy.pauseEvent attempt length failure)])

/-- The next step of a call, unless it has to wait or has ended. -/
def step? (setup : Setup σ) (w : World σ) (c : Call) : Option (World σ × Call × Journal) :=
  match c.phase with
  | .looking index => some (c.look setup w index)
  | .waiting index attempt since settled =>
    if since + settled.after ≤ w.now then
      (setup.registry.get? index).map fun endpoint =>
        c.settle setup w index attempt since endpoint settled.ending
    else none
  | .pausing index attempt endsAt =>
    if endsAt ≤ w.now then
      (setup.registry.get? index).map fun endpoint => c.attempt setup w index attempt endpoint
    else none
  | .ended _ => none

end Call

end Failover
