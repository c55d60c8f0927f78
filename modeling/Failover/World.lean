import Failover.Retry
import Failover.Tracker

/-!
# The shared world

What the calls and probe cycles of one manager share. The `Setup` stays the same for the whole life
of a manager, the `World` changes with every step. Time is counted in whole milliseconds.
-/

namespace Failover

/-- What stays the same: the endpoints, the retry policy, the transport, the clocks and the source
of random draws. -/
structure Setup (σ : Type) where
  registry : Registry
  policy : RetryPolicy
  transport : Rpc.Transport σ
  clock : Clock
  /-- The draw with this number. -/
  draw : Nat → Nat

/-- What changes: the time, the tracker, the state of the transport and the number of draws taken.
-/
structure World (σ : Type) where
  now : Nat
  tracker : Tracker
  wire : σ
  drawn : Nat

namespace World

variable {σ : Type}

/-- What the clocks show now. -/
def reading (setup : Setup σ) (w : World σ) : Reading := setup.clock.afterMillis w.now

/-- The world with another tracker. -/
def setTracker (w : World σ) (t : Tracker) : World σ := { w with tracker := t }

/-- Sends a request to an endpoint: how it ends under the deadline of the endpoint, and the world in
which the transport has moved on. -/
def send (setup : Setup σ) (w : World σ) (endpoint : Endpoint) (request : Rpc.Request) :
    Rpc.Settled × World σ × Journal :=
  let (answer, wire) := setup.transport.send w.wire endpoint request
  (answer.settle endpoint.timeout, { w with wire := wire }, [.sent ⟨w.now, endpoint.url, request⟩])

/-- Asks the tracker whether a call may try an endpoint. -/
def eligibility (setup : Setup σ) (w : World σ) (index : Nat) (endpoint : Endpoint) :
    Eligibility × World σ × Journal :=
  let (verdict, tracker, notes) :=
    w.tracker.eligibility (w.reading setup).instant index endpoint (setup.registry.isLast index)
  (verdict, w.setTracker tracker, notes)

/-- Reports a success to the tracker. -/
def recordSuccess (setup : Setup σ) (w : World σ) (index : Nat) (endpoint : Endpoint)
    (latency : Duration) (observer : Observer) : World σ × Journal :=
  let (tracker, notes) :=
    w.tracker.recordSuccess (w.reading setup) index endpoint latency observer
  (w.setTracker tracker, notes)

/-- Reports a failure to the tracker. -/
def recordFailure (setup : Setup σ) (w : World σ) (index : Nat) (endpoint : Endpoint)
    (observer : Observer) : World σ × Journal × Option Fault :=
  let (tracker, notes, fault?) :=
    w.tracker.recordFailure (w.reading setup) index endpoint observer
  (w.setTracker tracker, notes, fault?)

/-- The report on every endpoint. -/
def snapshot (setup : Setup σ) (w : World σ) : StatusReport × World σ × Journal :=
  let (report, tracker, notes) := w.tracker.snapshot (w.reading setup).instant setup.registry
  (report, w.setTracker tracker, notes)

end World

end Failover
