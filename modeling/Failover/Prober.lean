import Failover.Cycle

/-!
# The background prober

The prober runs a cycle at every tick, the first one at once. A tick is due one interval after the
one before it; if that was taken more than five milliseconds late, one interval after it was taken.
The prober ends when it is told to, but not in the middle of a cycle, and it survives a faulted
cycle.
-/

namespace Failover

open Time

/-- What the prober does at the moment. -/
inductive ProberPhase where
  /-- It was started and has done nothing yet. -/
  | spawned
  /-- It waits for a tick, at a time in nanoseconds. -/
  | idle (tick : Nat)
  /-- It runs a cycle; the next tick is known. -/
  | cycling (tick : Nat) (cycle : Cycle)
  | ended

/-- A background prober. -/
structure Prober where
  interval : Duration
  method : String
  /-- Whether it has been told to end. -/
  stopping : Bool
  phase : ProberPhase

namespace Prober

variable {σ : Type}

/-- The shortest interval. -/
def minInterval : Duration := Duration.ofMillis 1

/-- A prober that was just started. Its interval is at least a millisecond. -/
def new (interval : Duration) (method : String) : Prober where
  interval := if interval.nanos < minInterval.nanos then minInterval else interval
  method := method
  stopping := false
  phase := .spawned

/-- Whether the prober has ended. -/
def isEnded (p : Prober) : Bool :=
  match p.phase with
  | .ended => true
  | _ => false

/-- Tells the prober to end. -/
def stop (p : Prober) : Prober := { p with stopping := true }

/-- The delay, in nanoseconds, up to which a tick is not late. -/
def tolerance : Nat := 5 * nanosPerMilli

/-- The tick after one that was due at `tick` and is taken at `now`, both in nanoseconds. -/
def nextTick (interval : Duration) (tick now : Nat) : Nat :=
  if tick + tolerance < now then now + interval.nanos else tick + interval.nanos

/-- The millisecond in which a tick fires. -/
def tickMillis (tick : Nat) : Nat := (tick + (nanosPerMilli - 1)) / nanosPerMilli

/-- The time at which the prober goes on; none if it has ended. -/
def wakesAt? (now : Nat) (p : Prober) : Option Nat :=
  match p.phase with
  | .spawned => some now
  | .idle tick => some (if p.stopping then now else tickMillis tick)
  | .cycling _ cycle => if cycle.isOver then some now else cycle.wakesAt? now
  | .ended => none

/-- The next step of the prober, unless it has to wait or has ended. -/
def step? (setup : Setup σ) (w : World σ) (p : Prober) : Option (World σ × Prober × Journal) :=
  match p.phase with
  | .spawned =>
    some (w, { p with phase := .idle (w.now * nanosPerMilli) },
      [.event (.proberStarting (p.interval.millis % 0x10000000000000000) p.method setup.registry.size)])
  | .idle tick =>
    if p.stopping then some (w, { p with phase := .ended }, [.event .proberReceivedShutdown])
    else if tickMillis tick ≤ w.now then
      let next := nextTick p.interval tick (w.now * nanosPerMilli)
      some (w, { p with phase := .cycling next (Cycle.start p.method setup.registry.size) }, [])
    else none
  | .cycling tick cycle =>
    if cycle.isOver then
      some (w, { p with phase := .idle tick },
        match cycle.fault? with
        | some f => [.event (.cycleFaulted (f.text.getD "unknown panic"))]
        | none => [])
    else
      (cycle.step? setup w).map fun (next, cycle, notes) =>
        (next, { p with phase := .cycling tick cycle }, notes)
  | .ended => none

end Prober

end Failover
