import Failover.Admin
import Failover.Console
import Failover.Journal.Filter
import Failover.Journal.Style
import Failover.Net.Listening
import Failover.Service.Event

/-!
# The service

The service loads its configuration, listens for those who read its metrics, probes its endpoints in
the background and answers questions about their health until it is told to end. `Service.boot`
brings it up, `Service.network` lets others reach it, and `Service.finish` takes it down. Each
leaves log lines, of which `LogSetup` selects those that are written.
-/

namespace Failover

/-- Which log lines are written, and how. -/
structure LogSetup where
  filter : LogFilter
  style : LogStyle
deriving Inhabited

namespace LogSetup

/-- The filter that goes with a configured level. -/
def filterOfLevel (level : String) : LogFilter :=
  .ofTextLossy ("rpc_failover=" ++ level ++ ",tower_http=info")

/-- The setup of a configuration. A well-formed filter in the environment replaces the configured
level, and colour can be turned off there. -/
def ofConfig (env : Environment) (c : ObservabilityConfig) : LogSetup where
  filter := ((env "RUST_LOG").bind LogFilter.ofText?).getD (filterOfLevel c.logLevel)
  style :=
    match c.logFormat with
    | .json => .json
    | .pretty => .sentences ((env "NO_COLOR").all fun v => v = "")

end LogSetup

/-- A service that is up. -/
structure Service (σ : Type) where
  manager : Manager σ
  /-- The address at which metrics are read, if there is one. -/
  metrics : Option Net.SocketAddress
  /-- The address of the status server, if there is one. -/
  admin : Option Net.SocketAddress

/-- What an attempt to bring a service up leaves behind. -/
structure Boot (σ : Type) where
  /-- How log lines are written; none if there was no configuration. -/
  logs : Option LogSetup
  lines : List LogLine
  /-- The service, or how the program ends. -/
  outcome : Except Exit (Service σ)

namespace Service

variable {σ : Type}

/-- Starts to listen for those who read metrics. It goes on without them if that fails. -/
def listenForMetrics (machine : Net.Machine) (c : ObservabilityConfig) :
    List LogLine × Option Net.SocketAddress × Net.Machine :=
  if c.metricsEnabled then
    match Net.SocketAddress.ofText? c.metricsAddress with
    | none => ([(ServiceEvent.metricsAddressMalformed c.metricsAddress).line], none, machine)
    | some a =>
      match machine.listen a with
      | .ok machine => ([(ServiceEvent.metricsListening a.toText).line], some a, machine)
      | .error problem =>
        ([(ServiceEvent.metricsFailed a.toText
          ("failed to create HTTP listener: " ++ problem.message)).line], none, machine)
  else ([], none, machine)

/-- Starts the status server: its address, if it is enabled. -/
def listenForStatus (machine : Net.Machine) (c : AdminConfig) :
    List LogLine × Except Exit (Option Net.SocketAddress) :=
  if c.enabled then
    match machine.listenAt c.bindAddress with
    | .ok (a, _) => ([(ServiceEvent.listening a.toText).line], .ok (some a))
    | .error problem => ([], .error (.failure problem.toText))
  else ([], .ok none)

/-- The lines at the start, once the configuration of a file is known. -/
def firstLines (path : String) (c : Config) : List LogLine :=
  [(ServiceEvent.starting Admin.version).line,
    (ServiceEvent.configured path c.retries.maxRetries.toNat c.breaker.threshold.toNat).line]

/-- Brings up the service of a configuration. -/
def bootConfigured (h : Surroundings σ) (wire : σ) (machine : Net.Machine) (path : String)
    (c : Config) : List LogLine × Except Exit (Service σ) :=
  let (metricsLines, metrics, machine) := listenForMetrics machine c.observability
  let lines := firstLines path c ++ metricsLines
  match h.manager wire c with
  | .error e => (lines, .error (.failure e.toText))
  | .ok (m, built) =>
    let (m, started) := m.start
    let (listening, outcome) := listenForStatus machine c.admin
    (lines ++ LogLine.ofJournal built ++ [(ServiceEvent.ready m.endpointCount).line] ++
      LogLine.ofJournal started ++ listening, outcome.map fun admin => ⟨m, metrics, admin⟩)

/-- Brings up the service whose configuration is in a file. -/
def boot (h : Surroundings σ) (wire : σ) (machine : Net.Machine) (path : String) : Boot σ :=
  match h.loadConfig path with
  | .error e => ⟨none, [], .error (.failure e.toText)⟩
  | .ok c =>
    let (lines, outcome) := bootConfigured h wire machine path c
    ⟨some (.ofConfig h.env c.observability), lines, outcome⟩

/-- Answers a request that reaches the status server. -/
def answer (s : Service σ) (r : Http.Request) : Http.Exchange × Service σ :=
  let (response, m, _) := Admin.handle s.manager r.verb r.target
  (.response
    { status := response.code
      contentType := response.body.map fun _ => "application/json"
      body := ((response.body.map Json.compact).getD "").toUTF8.toList
      missing := 0 },
    { s with manager := m })

/-- A network to which the status server has been added. -/
def network (inner : Http.Network σ) : Http.Network (Service σ) where
  exchange s origin r :=
    let wanted? : Option Net.SocketAddress :=
      (Net.IpAddress.ofHost? origin.host).map fun ip => ⟨ip, origin.port⟩
    let isMeant : Bool :=
      match wanted?, s.admin with
      | some wanted, some admin => wanted.reaches admin
      | _, _ => false
    if isMeant then if origin.isSecure then (.dropped, s) else s.answer r
    else
      let (exchange, wire) := inner.exchange s.manager.world.wire origin r
      (exchange, { s with manager := s.manager.mapWire fun _ => wire })
  latency s := inner.latency s.manager.world.wire

/-- What surrounds other programs while the service is up. -/
def surroundings (h : Surroundings σ) : Surroundings (Service σ) where
  files := h.files
  env := h.env
  network := network h.network
  identifier s := h.identifier s.manager.world.wire
  clock := h.clock
  draw := h.draw

/-- Waits until the state of the transport is such as it is waited for. -/
def waitUntil (s : Service σ) (enough : σ → Bool) : List LogLine × Service σ :=
  let (m, notes) := s.manager.waitUntil enough
  (LogLine.ofJournal notes, { s with manager := m })

/-- Takes the service down after a signal. -/
def finish (s : Service σ) : List LogLine × Service σ :=
  let (m, notes) := s.manager.stop
  (ServiceEvent.signalled.line :: LogLine.ofJournal notes ++ [ServiceEvent.complete.line],
    { s with manager := m })

end Service

end Failover
