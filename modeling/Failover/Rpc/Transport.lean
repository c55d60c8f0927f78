import Failover.Endpoint
import Failover.Fault
import Failover.Rpc.Envelope

/-!
# Transports

A transport answers requests. What it answers may depend on a state of its own, which each request
moves on. An `Answer` says how long it takes; `Answer.settle` puts it under a deadline. An answer
that arrives in the very millisecond of the deadline still counts.
-/

namespace Failover

namespace Rpc

/-- What a request comes back with in the end. -/
inductive Reply where
  | result (r : Result Json)
  /-- There is never an answer. -/
  | silence
  | fault (f : Fault)

/-- A reply and the milliseconds that it takes. -/
structure Answer where
  latency : Nat
  reply : Reply

/-- How a request ends. -/
inductive Ending where
  | result (r : Result Json)
  | fault (f : Fault)

/-- How and after how many milliseconds a request ends. -/
structure Settled where
  after : Nat
  ending : Ending

/-- The end of a request that is cut off at its deadline. -/
def Settled.timedOut (deadline : Duration) : Settled :=
  ⟨deadline.timerMillis, .result (.error (.timeout deadline))⟩

/-- The end of a request under a deadline. -/
def Answer.settle (deadline : Duration) (a : Answer) : Settled :=
  if a.latency ≤ deadline.timerMillis then
    match a.reply with
    | .result r => ⟨a.latency, .result r⟩
    | .fault f => ⟨a.latency, .fault f⟩
    | .silence => .timedOut deadline
  else .timedOut deadline

/-- Answers requests; `σ` is its state. -/
structure Transport (σ : Type) where
  send : σ → Endpoint → Request → Answer × σ

/-- No request outlasts the timer of its deadline. -/
theorem Answer.settle_after_le (deadline : Duration) (a : Answer) :
    (a.settle deadline).after ≤ deadline.timerMillis := by
  unfold Answer.settle
  split
  · split <;> simp_all [Settled.timedOut]
  · exact Nat.le_refl _

end Rpc

end Failover
