import Failover.Call
import Failover.Prober

/-!
# Foreground activities

What the owner of a manager waits for: calls, a probe cycle, the passing of time, or the end of the
prober. A `Foreground` advances in steps next to the background prober. Calls that run side by side
take their turns in the order in which they were given.
-/

namespace Failover

/-- A call that may begin later. -/
inductive CallTask where
  | delayed (startsAt : Nat) (request : Rpc.Request)
  | active (call : Call)
  | finished (result : CallResult) (endedAt : Nat)

namespace CallTask

variable {σ : Type}

/-- The task of a call in progress or one that has just ended. -/
def ofCall (c : Call) (now : Nat) : CallTask :=
  match c.result? with
  | some r => .finished r now
  | none => .active c

/-- The next step, unless the task has to wait or has finished. -/
def step? (setup : Setup σ) (w : World σ) : CallTask → Option (World σ × CallTask × Journal)
  | .delayed startsAt request =>
    if startsAt ≤ w.now then some (w, .active (Call.start request w.now), []) else none
  | .active c => (c.step? setup w).map fun (next, c, notes) => (next, ofCall c w.now, notes)
  | .finished .. => none

/-- The time at which the task goes on. -/
def wakesAt? (now : Nat) : CallTask → Option Nat
  | .delayed startsAt _ => some startsAt
  | .active c => c.wakesAt? now
  | .finished .. => none

/-- The result of the task and its time, once it has finished. -/
def result? : CallTask → Option (CallResult × Nat)
  | .finished r t => some (r, t)
  | _ => none

/-- One step of the first task that can go on. -/
def stepFirst? (setup : Setup σ) (w : World σ) :
    List CallTask → Option (World σ × List CallTask × Journal)
  | [] => none
  | task :: rest =>
    match task.step? setup w with
    | some (next, task, notes) => some (next, task :: rest, notes)
    | none => (stepFirst? setup w rest).map fun (next, rest, notes) => (next, task :: rest, notes)

end CallTask

/-- What the owner of a manager waits for. -/
inductive Foreground where
  | calls (tasks : List CallTask)
  | cycle (c : Cycle)
  /-- The passing of time. -/
  | sleep (endsAt : Nat)
  /-- The end of the prober, but no longer than until a time if there is one. -/
  | join (endsAt : Option Nat)

namespace Foreground

/-- The activity of a single call. -/
def call (now : Nat) (request : Rpc.Request) : Foreground := .calls [.delayed now request]

/-- The results of the calls that have ended, with their times. -/
def results : Foreground → List (CallResult × Nat)
  | .calls tasks => tasks.filterMap CallTask.result?
  | _ => []

variable {σ : Type}

/-- Whether there is nothing left to wait for. -/
def isOver (now : Nat) (prober : Option Prober) : Foreground → Bool
  | .calls tasks => tasks.all fun t => t.result?.isSome
  | .cycle c => c.isOver
  | .sleep endsAt => endsAt ≤ now
  | .join endsAt => endsAt.any (fun t => decide (t ≤ now)) || prober.all Prober.isEnded

/-- The next step, unless the activity has to wait. -/
def step? (setup : Setup σ) (w : World σ) : Foreground → Option (World σ × Foreground × Journal)
  | .calls tasks =>
    (CallTask.stepFirst? setup w tasks).map fun (next, tasks, notes) => (next, .calls tasks, notes)
  | .cycle c => (c.step? setup w).map fun (next, c, notes) => (next, .cycle c, notes)
  | .sleep _ | .join _ => none

/-- The time at which the activity goes on. -/
def wakesAt? (now : Nat) : Foreground → Option Nat
  | .calls tasks => (tasks.filterMap (CallTask.wakesAt? now)).min?
  | .cycle c => c.wakesAt? now
  | .sleep endsAt => some endsAt
  | .join endsAt => endsAt

end Foreground

end Failover
