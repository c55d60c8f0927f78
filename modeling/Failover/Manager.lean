import Failover.Foreground
import Failover.Settings

/-!
# The manager

A `Manager` is the entry point of the library: it runs calls over its endpoints, probes them on
demand or in the background, and reports on their health. Each operation gives its result, the
manager after it and what it left in the journal.

Whatever is due at one moment happens in a fixed order: first the activity that the owner waits for,
then the background prober. Time moves on only when both have to wait, and when the activity is over
its owner goes on before the prober does.
-/

namespace Failover

/-- The smaller of two times, of which either may be missing. -/
def earliest? : Option Nat → Option Nat → Option Nat
  | some s, some t => some (min s t)
  | some s, none => some s
  | none, t => t

/-- A manager at one moment. -/
structure Manager (σ : Type) where
  setup : Setup σ
  settings : Settings
  world : World σ
  /-- The background prober, if it was started. -/
  prober : Option Prober

namespace Manager

variable {σ : Type}

/-- A manager of the configured endpoints over a transport. -/
def build (configs : List EndpointConfig) (settings : Settings) (transport : Rpc.Transport σ)
    (wire : σ) (clock : Clock) (draw : Nat → Nat) : Except Error (Manager σ × Journal) :=
  match settings.validate with
  | .error e => .error e
  | .ok () =>
    match Registry.ofConfigs configs with
    | .error e => .error e
    | .ok registry =>
      .ok
        ({ setup :=
            { registry := registry
              policy := RetryPolicy.new settings.maxRetries settings.backoffUnit
              transport := transport
              clock := clock
              draw := draw }
           settings := settings
           world :=
            { now := 0
              tracker := Tracker.new registry.size settings.breakerThreshold settings.breakerTimeout
              wire := wire
              drawn := 0 }
           prober := none },
          [.event (.managerInitialized registry.size registry.primary.displayName)])

/-! ## Running activities -/

/-- One step of the background prober. -/
def stepProber? (m : Manager σ) : Option (Manager σ × Journal) :=
  match m.prober with
  | none => none
  | some p =>
    (p.step? m.setup m.world).map fun (world, p, notes) =>
      ({ m with world := world, prober := some p }, notes)

/-- The time at which the prober goes on. -/
def proberWakesAt? (m : Manager σ) : Option Nat := m.prober.bind (Prober.wakesAt? m.world.now)

/-- The next moment at which something is due. -/
def nextMoment? (m : Manager σ) (f : Foreground) : Option Nat :=
  earliest? (f.wakesAt? m.world.now) m.proberWakesAt?

/-- The manager at another moment. -/
def setNow (m : Manager σ) (t : Nat) : Manager σ := { m with world := { m.world with now := t } }

/-- Moves time on towards a moment, but not beyond anything that is due to the prober before it. -/
def catchUp (m : Manager σ) (t : Nat) : Manager σ :=
  m.setNow (max m.world.now ((m.proberWakesAt?.map (min t)).getD t))

/-- The manager whose transport is in another state. -/
def mapWire (m : Manager σ) (change : σ → σ) : Manager σ :=
  { m with world := { m.world with wire := change m.world.wire } }

/-- Moves time on to the next moment at which something is due. -/
def moveOn? (m : Manager σ) (f : Foreground) : Option (Manager σ) :=
  match m.nextMoment? f with
  | some t => if m.world.now < t then some (m.setNow t) else none
  | none => none

/-- One step of what is due at this moment, unless the activity is over. -/
def stepNow? (m : Manager σ) (f : Foreground) : Option (Manager σ × Foreground × Journal) :=
  if f.isOver m.world.now m.prober then none
  else
    match f.step? m.setup m.world with
    | some (world, f, notes) => some ({ m with world := world }, f, notes)
    | none => m.stepProber?.map fun (m, notes) => (m, f, notes)

/-- One step of an activity and what goes on behind it, unless the activity is over. -/
def step? (m : Manager σ) (f : Foreground) : Option (Manager σ × Foreground × Journal) :=
  if f.isOver m.world.now m.prober then none
  else
    match m.stepNow? f with
    | some next => some next
    | none => (m.moveOn? f).map fun m => (m, f, [])

/-- At most `fuel` steps of an activity; the journal so far is kept in reverse. -/
def drive (fuel : Nat) (m : Manager σ) (f : Foreground) (past : List Note) :
    Manager σ × Foreground × Journal :=
  match fuel with
  | 0 => (m, f, past.reverse)
  | fuel + 1 =>
    match m.step? f with
    | none => (m, f, past.reverse)
    | some (m, f, notes) => drive fuel m f (notes.reverse ++ past)

/-- The number of steps after which an activity is given up. -/
def stepLimit : Nat := 1000000000000

/-- Waits for an activity. -/
def await (m : Manager σ) (f : Foreground) : Manager σ × Foreground × Journal :=
  m.drive stepLimit f []

/-- At most `fuel` steps of what is due at this moment; the journal so far is kept in reverse. -/
def driveNow (fuel : Nat) (m : Manager σ) (f : Foreground) (past : List Note) :
    Manager σ × Foreground × Journal :=
  match fuel with
  | 0 => (m, f, past.reverse)
  | fuel + 1 =>
    match m.stepNow? f with
    | none => (m, f, past.reverse)
    | some (m, f, notes) => driveNow fuel m f (notes.reverse ++ past)

/-- Does everything that is due at this moment. -/
def settle (m : Manager σ) (f : Foreground) : Manager σ × Foreground × Journal :=
  m.driveNow stepLimit f []

/-- Lets the prober run until everything that is due has been done and the state of the transport is
such as it is waited for; the journal so far is kept in reverse. -/
def driveUntil (enough : σ → Bool) (fuel : Nat) (m : Manager σ) (past : List Note) :
    Manager σ × Journal :=
  match fuel with
  | 0 => (m, past.reverse)
  | fuel + 1 =>
    match m.stepProber? with
    | some (m, notes) => driveUntil enough fuel m (notes.reverse ++ past)
    | none =>
      if enough m.world.wire then (m, past.reverse)
      else
        match m.moveOn? (.join none) with
        | some m => driveUntil enough fuel m past
        | none => (m, past.reverse)

/-! ## Operations -/

/-- Runs calls side by side, each after a delay in milliseconds: their results and the times at
which they ended. -/
def parallel (m : Manager σ) (requests : List (Nat × Rpc.Request)) :
    List (CallResult × Nat) × Manager σ × Journal :=
  let tasks := requests.map fun r => CallTask.delayed (m.world.now + r.1) r.2
  let (m, f, notes) := m.await (.calls tasks)
  (f.results, m, notes)

/-- Runs one call. -/
def call (m : Manager σ) (request : Rpc.Request) : Option CallResult × Manager σ × Journal :=
  let (m, f, notes) := m.await (.call m.world.now request)
  (f.results.head?.map Prod.fst, m, notes)

/-- Runs one probe cycle: the fault that ended it, if one did. -/
def checkHealth (m : Manager σ) : Option Fault × Manager σ × Journal :=
  match m.await (.cycle (Cycle.start m.settings.probeMethod m.setup.registry.size)) with
  | (m, .cycle c, notes) => (c.fault?, m, notes)
  | (m, _, notes) => (none, m, notes)

/-- Lets time pass. -/
def sleep (m : Manager σ) (length : Duration) : Manager σ × Journal :=
  let out := m.await (.sleep (m.world.now + length.timerMillis))
  (out.1, out.2.2)

/-- Lets the prober run until the state of the transport is such as it is waited for, but for at
least as long as something is due at this moment. -/
def waitUntil (m : Manager σ) (enough : σ → Bool) : Manager σ × Journal :=
  m.driveUntil enough stepLimit []

/-- Starts the background prober, unless health checks are disabled or it runs already. -/
def start (m : Manager σ) : Manager σ × Journal :=
  if m.settings.healthChecksEnabled then
    match m.prober with
    | some _ => (m, [.event .proberAlreadyRunning])
    | none =>
      ({ m with prober := some (Prober.new m.settings.healthCheckInterval m.settings.probeMethod) },
        [])
  else (m, [.event .healthChecksDisabled])

/-- Stops the background prober and waits for its end. If it takes too long it is dropped. -/
def stop (m : Manager σ) : Manager σ × Journal :=
  match m.prober with
  | none => (m, [])
  | some p =>
    let told : Journal :=
      if p.isEnded then [.event (.shutdownTriggered 0), .event .proberAlreadyExited]
      else [.event (.shutdownTriggered 1)]
    let endsAt := m.world.now + m.settings.stopTimeout.timerMillis
    let out := { m with prober := some p.stop }.await (.join (some endsAt))
    let event : Event :=
      if out.1.prober.all Prober.isEnded then .proberStopped
      else .proberOverdue (m.settings.stopTimeout.millis % 0x10000000000000000)
    ({ out.1 with prober := none }, told ++ out.2.2 ++ [.event event])

/-- Whether the background prober runs. -/
def isRunning (m : Manager σ) : Bool := m.prober.any fun p => !p.isEnded

/-- What a prober that ran for a while leaves behind. -/
structure ProberRun (σ : Type) where
  manager : Manager σ
  /-- Whether it had ended before it was told to. -/
  endedEarly : Bool
  /-- The number of listeners that were told. -/
  notified : Nat
  /-- Whether it ended by itself once it was told. -/
  endedNormally : Bool
  notes : Journal

/-- Lets a prober run for some time, then either drops it or tells it to end and waits for that. -/
def runProber (m : Manager σ) (interval : Duration) (method : String) (length : Duration)
    (abort : Bool) : ProberRun σ :=
  let started := { m with prober := some (Prober.new interval method) }
  let (m, notes) := started.sleep length
  let ended := !m.isRunning
  if abort then ⟨{ m with prober := none }, ended, 0, false, notes⟩
  else
    let told := { m with prober := m.prober.map Prober.stop }
    let (m, _, more) := told.await (.join none)
    ⟨m, ended, if ended then 0 else 1, m.prober.all Prober.isEnded,
      notes ++ [.event (.shutdownTriggered (if ended then 0 else 1))] ++ more⟩

/-- The report on every endpoint. -/
def status (m : Manager σ) : StatusReport × Manager σ × Journal :=
  let (report, world, notes) := m.world.snapshot m.setup
  (report, { m with world := world }, notes)

/-- The number of endpoints. -/
def endpointCount (m : Manager σ) : Nat := m.setup.registry.size

/-- The manager in diagnostic form. -/
def toText (m : Manager σ) : String :=
  Text.openRecord "FailoverManager"
    [("endpoints", toString m.endpointCount),
      ("settings", m.settings.toText),
      ("running", Text.truth m.isRunning)]

end Manager

end Failover
