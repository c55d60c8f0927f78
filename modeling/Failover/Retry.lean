import Failover.Backoff
import Failover.Journal.Note
import Failover.Rpc.Transport

/-!
# Retries

A `RetryPolicy` is the number of attempts that one endpoint gets and the unit of the pauses between
them. `RetryPolicy.next` decides what follows an attempt; `RetryPolicy.run` plays all attempts
against given outcomes. Every failure is retried, and there is no pause after the last attempt.
-/

namespace Failover

/-- The number of attempts and the unit of the pauses between them. -/
structure RetryPolicy where
  maxAttempts : Nat
  unit : Duration
  maxAttempts_pos : 1 ≤ maxAttempts
  maxAttempts_lt : maxAttempts < 0x100000000
deriving DecidableEq

/-- What follows an attempt. -/
inductive RetryStep (α : Type) where
  | finish (r : Rpc.Result α)
  /-- Another attempt after a pause. -/
  | pause (length : Duration) (failure : Rpc.Failure)

namespace RetryPolicy

/-- The policy with this many attempts, but at least one. -/
def new (maxAttempts : UInt32) (unit : Duration) : RetryPolicy where
  maxAttempts := max maxAttempts.toNat 1
  unit := unit
  maxAttempts_pos := by omega
  maxAttempts_lt := by
    have := maxAttempts.toNat_lt
    omega

instance : Inhabited RetryPolicy := ⟨new 1 Duration.zero⟩

/-- The policy for an endpoint that may set its own number of attempts. -/
def withOverride (p : RetryPolicy) (maxRetries : Option UInt32) : RetryPolicy :=
  match maxRetries with
  | some n => new n p.unit
  | none => p

/-- The policy for an endpoint. -/
def forEndpoint (p : RetryPolicy) (e : Endpoint) : RetryPolicy := p.withOverride e.maxRetries

/-- The number of random draws that a pause takes. -/
def drawsPerPause (p : RetryPolicy) : Nat := if Backoff.drawRange p.unit = 0 then 0 else 1

/-- What follows attempt `attempt`, counted from zero. -/
def next {α : Type} (p : RetryPolicy) (attempt draw : Nat) (r : Rpc.Result α) : RetryStep α :=
  match r with
  | .ok a => .finish (.ok a)
  | .error failure =>
    if attempt + 1 < p.maxAttempts then .pause (Backoff.delay attempt p.unit draw) failure
    else .finish (.error failure)

/-- The log event of a pause. -/
def pauseEvent (p : RetryPolicy) (attempt : Nat) (length : Duration) (failure : Rpc.Failure) :
    Event :=
  .retrying (attempt + 1) p.maxAttempts length failure

/-- A run of attempts: the index and the starting time of each, the pauses between them, how and
when the last one ended, and what was logged. -/
structure Run where
  attempts : List (Nat × Nat)
  pauses : List Duration
  ending : Rpc.Ending
  time : Nat
  events : List Event

/-- The run from attempt `attempt` on, at a time in milliseconds. Attempt `k` ends as `outcome k`
says, and the `n`-th draw is `draw n`. -/
def runFrom (p : RetryPolicy) (draw : Nat → Nat) (outcome : Nat → Rpc.Settled)
    (attempt drawn time : Nat) : Run :=
  let settled := outcome attempt
  let last : Run := ⟨[(attempt, time)], [], settled.ending, time + settled.after, []⟩
  match settled.ending with
  | .fault _ => last
  | .result r =>
    match p.next attempt (draw drawn) r with
    | .finish _ => last
    | .pause length failure =>
      if attempt + 1 < p.maxAttempts then
        let rest := runFrom p draw outcome (attempt + 1) (drawn + p.drawsPerPause)
          (time + settled.after + length.timerMillis)
        { rest with
          attempts := (attempt, time) :: rest.attempts
          pauses := length :: rest.pauses
          events := p.pauseEvent attempt length failure :: rest.events }
      else last
termination_by p.maxAttempts - attempt

/-- The run of all attempts from time zero on. -/
def run (p : RetryPolicy) (draw : Nat → Nat) (outcome : Nat → Rpc.Settled) : Run :=
  p.runFrom draw outcome 0 0 0

end RetryPolicy

end Failover
