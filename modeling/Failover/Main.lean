import Failover.Http.Transcript
import Failover.Http.Wire
import Failover.Journal.Exposition
import Failover.Service.Run
import Std.Async.DNS
import Std.Async.Signal
import Std.Async.System
import Std.Async.TCP
import Std.Async.Timer

/-!
# The programs

Under the name `failover-cli` the program is the management command, under every other name it is
the service. What they do is decided elsewhere, in terms of a network whose exchanges are known.
Here the exchanges are carried out, time passes, and what is left behind is written.

Connections are not encrypted; a server that wants them to be looks as if it hung up.
-/

namespace Failover

namespace Program

open Http (Exchange Origin Transcript Wire.Arrival)
open Std.Async (Async)
open Std.Async.TCP.Socket (Client Server)

/-! ## The machine -/

/-- The content of a file. -/
def fileContent (path : String) : IO (Except FileProblem ByteArray) := do
  try
    return .ok (← IO.FS.readBinFile path)
  catch
    | .inappropriateType .. => return .error .isDirectory
    | _ => return .error .notFound

/-- The environment variables. -/
def environment : IO Environment := do
  let all ← Std.Async.System.getEnv
  return all.get?

/-- What the clocks show. -/
def clock : IO Clock := do
  let wall := (← Std.Time.Timestamp.now).toNanosecondsSinceUnixEpoch.val
  return ⟨⟨⟨← IO.monoNanosNow⟩,
    ⟨wall / Time.nanosPerSecond, (wall % Time.nanosPerSecond).toNat⟩⟩⟩

/-- The time at this moment. -/
def wallTime : IO Timestamp := return (← clock).origin.wall

/-- A seed for random numbers. -/
def seed : IO UInt64 := return (← IO.getRandomBytes 8).toUInt64LE!

/-- Waits until the clock shows a number of milliseconds. -/
def sleepUntil (millis : Nat) : Async Unit := do
  let now ← IO.monoMsNow
  if now < millis then Std.Async.sleep (.ofNat (millis - now))

/-- What surrounds a program that reads its configuration from a file. -/
def surroundings (path : String) : IO (Surroundings Transcript) := do
  let content ← fileContent path
  let env ← environment
  let seed ← seed
  let range :=
    match content.toOption.map (Config.loadBytes env) with
    | some (.ok c) => Backoff.drawRange (Settings.ofConfig c).backoffUnit
    | _ => 0
  return {
    files := fun _ => content
    env := env
    network := Transcript.network
    identifier := Transcript.identifier
    clock := ← clock
    draw := Random.below seed range }

/-! ## Addresses -/

/-- The address of a machine, as the system takes it. -/
def systemIp : Net.IpAddress → Std.Net.IPAddr
  | .v4 address =>
    let part (unit : Nat) : UInt8 := .ofNat (address / unit)
    .v4 (.ofParts (part 0x1000000) (part 0x10000) (part 0x100) (part 1))
  | .v6 pieces =>
    let part (place : Nat) : UInt16 := .ofNat (pieces.getD place 0)
    .v6 (.ofParts (part 0) (part 1) (part 2) (part 3) (part 4) (part 5) (part 6) (part 7))

/-- The address of a machine, as the system gives it. -/
def ipOfSystem : Std.Net.IPAddr → Net.IpAddress
  | .v4 a => .v4 (a.octets.toList.foldl (fun n part => 256 * n + part.toNat) 0)
  | .v6 a => .v6 (a.segments.toList.map UInt16.toNat)

/-- A socket address, as the system takes it. -/
def systemAddress (a : Net.SocketAddress) : Std.Net.SocketAddress :=
  match systemIp a.ip with
  | .v4 ip => .v4 ⟨ip, .ofNat a.port⟩
  | .v6 ip => .v6 ⟨ip, .ofNat a.port⟩

/-- The addresses of a server, those that are known to all machines first. -/
def addresses (origin : Origin) : Async (List Net.SocketAddress) := do
  let found ←
    match origin.host with
    | .ipv4 address => pure [.v4 address]
    | .ipv6 pieces => pure [.v6 pieces]
    | .name text =>
      try
        let all ← Std.Async.DNS.getAddrInfo (String.ofList text) ""
        pure (all.toList.map ipOfSystem)
      catch _ => pure []
  return found.eraseDups.map fun ip => ⟨ip, origin.port⟩

/-! ## Exchanges -/

/-- Reads from a connection until it is known what comes of it. -/
partial def receive (socket : Client) (soFar : ByteArray) : Async Exchange := do
  match ← socket.recv? 65536 with
  | none => return (Http.Wire.response soFar.toList true).getD .dropped
  | some more =>
    let all := soFar ++ more
    match Http.Wire.response all.toList false with
    | some found => return found
    | none => receive socket all

/-- Sends a request to an address. -/
def exchangeAt (address : Net.SocketAddress) (octets : ByteArray) : Async Exchange := do
  let socket ← Client.mk
  let connected ←
    try
      socket.connect (systemAddress address)
      pure true
    catch _ => pure false
  if connected then
    try
      socket.send octets
      receive socket .empty
    catch _ => return .dropped
  else return .refused address

/-- Sends a request to the first of some addresses at which anything listens. -/
def exchangeAtAny (octets : ByteArray) : List Net.SocketAddress → Async Exchange
  | [] => return .unknownHost
  | [last] => exchangeAt last octets
  | address :: rest => do
    match ← exchangeAt address octets with
    | .refused _ => exchangeAtAny octets rest
    | found => return found

/-- Cuts an exchange off after some time. -/
def within (patience : Option Duration) (exchange : Async Exchange) : Async Exchange :=
  match patience with
  | none => exchange
  | some d =>
    let overdue : Async Exchange := do
      Std.Async.sleep (.ofNat (min d.timerMillis 0x10000000000))
      return .silence
    Async.race exchange overdue

/-- Carries out an exchange, and measures how many milliseconds it takes. -/
def exchange (origin : Origin) (r : Http.Request) : Async (Exchange × Nat) := do
  let begun ← IO.monoMsNow
  let targets ← addresses origin
  let found ←
    if origin.isSecure && !targets.isEmpty then pure .dropped
    else within r.patience (exchangeAtAny (Http.Wire.ofRequest origin r) targets)
  return (found, (← IO.monoMsNow) - begun)

/-- Carries out exchanges side by side. -/
def exchangeAll (wanted : List (Origin × Http.Request)) : Async (List (Exchange × Nat)) := do
  let found ← Async.concurrentlyAll (wanted.map fun w => exchange w.1 w.2).toArray
  return found.toList

/-! ## The management command -/

/-- Runs a program again and again until its network is known. -/
partial def replay {α : Type} (run : Transcript → α × Transcript) (t : Transcript) : Async α := do
  let (result, after) := run t
  match after.wanted with
  | [] => return result
  | wanted => replay run (t.learn (← exchangeAll wanted.reverse))

/-- Runs an activity of a manager that began at a time at its own pace. -/
partial def live (begun : Nat) (m : Manager Transcript) (f : Foreground) : Async Foreground := do
  let (next, g, _) := m.settle f
  match next.world.wire.wanted with
  | [] =>
    match next.moveOn? g with
    | some later =>
      if g.isOver next.world.now next.prober then return g
      sleepUntil (begun + later.world.now)
      live begun later g
    | none => return g
  | wanted =>
    let found ← exchangeAll wanted.reverse
    live begun (m.mapWire (·.learn found)) f

/-- Makes a call. -/
def call (config method : String) (params : List String) : Async (Option Exit) := do
  match Console.openManager (← surroundings config) (.blank (← seed)) config with
  | .error exit => return some exit
  | .ok m =>
    let f ← live (← IO.monoMsNow) m (.call 0 (Console.callRequest method params))
    return Console.callExit (f.results.head?.map Prod.fst)

/-- Runs the management command. -/
def command (arguments : List String) : Async (Option Exit) := do
  match Command.Task.ofArguments arguments with
  | .run (.call config method params) => call config method params
  | _ =>
    let host ← surroundings ""
    replay (Console.run host · arguments) (.blank (← seed))

/-! ## Listening -/

/-- The problem that keeps a program from listening. -/
def listenProblem : IO.Error → Net.ListenProblem
  | .resourceBusy .. | .alreadyExists .. => .inUse
  | _ => .notLocal

/-- Listens at an address. -/
def openServer (a : Net.SocketAddress) : IO (Except Net.ListenProblem Server) := do
  try
    let server ← Server.mk
    server.bind (systemAddress a)
    server.listen 128
    return .ok server
  catch e => return .error (listenProblem e)

/-- The machine that refuses an address. -/
def refuse (machine : Net.Machine) (a : Net.SocketAddress) : Net.ListenProblem → Net.Machine
  | .inUse => { machine with taken := a :: machine.taken }
  | _ => { machine with owns := fun ip => ip ≠ a.ip && machine.owns ip }

/-- Reads a request from a connection. -/
partial def receiveRequest (socket : Client) (soFar : ByteArray) : Async Wire.Arrival := do
  match ← socket.recv? 65536 with
  | none => return .malformed
  | some more =>
    let all := soFar ++ more
    match Http.Wire.request all.toList with
    | .incomplete => receiveRequest socket all
    | found => return found

/-- Answers the request on a connection. -/
def serveOne (answer : Http.Request → IO Http.Response) (socket : Client) : Async Unit := do
  let response ←
    match ← receiveRequest socket .empty with
    | .request r => answer r
    | _ => pure ⟨400, none, [], 0⟩
  socket.send (Http.Wire.ofResponse response)
  socket.shutdown

/-- Answers every request that arrives. -/
def serve (answer : Http.Request → IO Http.Response) (server : Server) : Async Unit := do
  repeat
    let socket ← server.accept
    Std.Async.background (serveOne answer socket)

/-! ## The service -/

/-- A service at work. -/
structure Running where
  service : IO.Ref (Service Transcript)
  metrics : IO.Ref Metrics
  logs : LogSetup
  /-- When the service began, on the clock that counts milliseconds. -/
  begun : Nat

/-- Writes the lines of a log that are selected. -/
def writeLines (setup : Option LogSetup) (lines : List LogLine) : IO Unit := do
  match setup with
  | none => return
  | some setup =>
    let time ← wallTime
    let out ← IO.getStdout
    for l in setup.filter.select lines do
      out.putStrLn (l.render setup.style time)
    out.flush

namespace Running

/-- Writes and counts what a run has left behind. -/
def record (r : Running) (notes : Journal) : IO Unit := do
  writeLines (some r.logs) (LogLine.ofJournal notes)
  r.metrics.modify fun ms => notes.measurements.foldl Metrics.record ms

/-- Does what is due in a network of which some exchanges are known: the requests that go beyond
them, or else what the run left behind and the next moment. The service stays as it was if there are
such requests. -/
def settle (r : Running) (known : List (Exchange × Nat)) :
    IO (List (Origin × Http.Request) ⊕ Journal × Option Nat) :=
  r.service.modifyGet fun s =>
    let (m, f, notes) := (s.manager.mapWire (·.learn known)).settle (.join none)
    match m.world.wire.wanted with
    | [] =>
      (.inr (notes, (m.moveOn? f).map fun later => later.world.now),
        { s with manager := m.mapWire Transcript.forget })
    | wanted => (.inl wanted.reverse, s)

/-- Runs the background prober at its own pace. -/
def probe (r : Running) : Async Unit := do
  let mut known := []
  repeat
    match ← r.settle known with
    | .inl wanted => known := known ++ (← exchangeAll wanted)
    | .inr (notes, next) =>
      known := []
      r.record notes
      match next with
      | none => break
      | some t =>
        sleepUntil (r.begun + t)
        r.service.modify fun s => { s with manager := s.manager.catchUp t }

/-- Answers a request to the status server. -/
def status (r : Running) (request : Http.Request) : IO Http.Response := do
  let now := (← IO.monoMsNow) - r.begun
  let answered ← r.service.modifyGet fun s =>
    Service.answer { s with manager := s.manager.catchUp now } request
  match answered with
  | .response response => return response
  | _ => return ⟨500, none, [], 0⟩

/-- Answers a request for the metrics. -/
def metricsPage (r : Running) (_ : Http.Request) : IO Http.Response :=
  return ⟨200, some "text/plain; version=0.0.4", (← r.metrics.get).exposition.toUTF8.toList, 0⟩

/-- Takes the service down. -/
def finish (r : Running) : IO Unit := do
  writeLines (some r.logs) (← r.service.modifyGet Service.finish)

end Running

/-- Brings a service up on a machine of which some servers are open already. It starts over whenever
the machine turns out to refuse an address. -/
partial def bringUp (boot : Net.Machine → Boot Transcript) (machine : Net.Machine)
    (servers : List (Net.SocketAddress × Server)) :
    IO (Boot Transcript × List (Net.SocketAddress × Server)) := do
  let up := boot machine
  match up.outcome with
  | .error _ => return (up, servers)
  | .ok s =>
    let wanted := s.metrics.toList ++ s.admin.toList
    match wanted.find? fun a => (servers.lookup a).isNone with
    | none => return (up, servers)
    | some a =>
      match ← openServer a with
      | .ok server => bringUp boot machine ((a, server) :: servers)
      | .error problem => bringUp boot (refuse machine a problem) servers

/-- Waits for a signal to end. -/
def awaitSignal : Async Unit := do
  let interrupt ← Std.Async.Signal.Waiter.mk .sigint false
  let terminate ← Std.Async.Signal.Waiter.mk .sigterm false
  discard <| Async.race (do Std.Async.await (← interrupt.wait))
    (do Std.Async.await (← terminate.wait))

/-- Runs the service whose configuration is in a file. -/
def runService (path : String) : Async Exit := do
  let host ← surroundings path
  let wire : Transcript := .blank (← seed)
  let begun ← IO.monoMsNow
  let (up, servers) ← bringUp (fun machine => Service.boot host wire machine path) ⟨fun _ => true, []⟩ []
  writeLines up.logs up.lines
  match up.outcome, up.logs with
  | .error exit, _ => return exit
  | .ok _, none => return .success ""
  | .ok s, some logs =>
    let r : Running := ⟨← IO.mkRef s, ← IO.mkRef [], logs, begun⟩
    let attach (address : Option Net.SocketAddress) (answer : Http.Request → IO Http.Response) :
        Async Unit := do
      match address.bind fun a => servers.lookup a with
      | some server => Std.Async.background (serve answer server)
      | none => return
    attach s.metrics r.metricsPage
    attach s.admin r.status
    Std.Async.background r.probe
    awaitSignal
    r.finish
    return .success ""

/-- Runs the service as its arguments say. -/
def service (arguments : List String) : Async Exit := do
  match Command.serviceConfig arguments with
  | .run path => runService path
  | .help page => return .success page
  | .misuse => return .misuse

/-- Writes what a program leaves behind, and gives its code. -/
def leave (e : Exit) : IO UInt32 := do
  IO.print e.stdout
  IO.eprint e.stderr
  return .ofNat e.code

end Program

end Failover

/-- Runs the program that goes by the name under which it was started. -/
def main (arguments : List String) : IO UInt32 := do
  let name := (← IO.appPath).fileStem
  if name = some "failover-cli" then
    match ← (Failover.Program.command arguments).block with
    | some e => Failover.Program.leave e
    | none => return 1
  else Failover.Program.leave (← (Failover.Program.service arguments).block)
