import Failover.Admin
import Failover.Proofs.Manager.Lifecycle
import Failover.Proofs.Traffic.Redaction

/-!
# Passwords stay in the transport

A manager is asked for this and that, and its `transcript` keeps everything that comes of it: the
answers, the journal and the world. No step of a manager with a blind transport depends on a
password, so a manager and its redaction have one transcript, and with them any two managers whose
endpoints differ in their passwords alone.
-/

namespace Failover

variable {σ : Type}

/-! ## Transcripts -/

/-- What a manager is asked for. -/
inductive Operation (σ : Type) where
  | start
  | stop
  | call (request : Rpc.Request)
  /-- Calls side by side, each after a delay in milliseconds. -/
  | calls (requests : List (Nat × Rpc.Request))
  | checkHealth
  | status
  /-- A request to the status server. -/
  | serve (verb target : String)
  | describe
  /-- Time passes. -/
  | sleep (length : Duration)
  /-- The transport changes by itself. -/
  | rewire (change : σ → σ)

/-- What is answered. -/
inductive Outcome where
  | silent
  | called (result : Option CallResult)
  | calledAll (results : List (CallResult × Nat))
  | checked (fault : Option Fault)
  | reported (report : StatusReport)
  | served (response : Admin.Response)
  | described (text : String)

/-- What an operation comes to. -/
structure Outgoing (σ : Type) where
  outcome : Outcome
  world : World σ
  notes : Journal

namespace Manager

/-- Does what it is asked for. -/
def operate (m : Manager σ) : Operation σ → Outcome × Manager σ × Journal
  | .start => (.silent, m.start)
  | .stop => (.silent, m.stop)
  | .call request => (.called (m.call request).1, (m.call request).2)
  | .calls requests => (.calledAll (m.parallel requests).1, (m.parallel requests).2)
  | .checkHealth => (.checked m.checkHealth.1, m.checkHealth.2)
  | .status => (.reported m.status.1, m.status.2)
  | .serve verb target =>
    (.served (Admin.handle m verb target).1, (Admin.handle m verb target).2)
  | .describe => (.described m.toText, m, [])
  | .sleep length => (.silent, m.sleep length)
  | .rewire change => (.silent, m.mapWire change, [])

/-- What operations come to, one after the other. -/
def transcript (m : Manager σ) : List (Operation σ) → List (Outgoing σ)
  | [] => []
  | op :: rest =>
    let out := m.operate op
    ⟨out.1, out.2.1.world, out.2.2⟩ :: out.2.1.transcript rest

/-- Two managers that nothing tells apart, neither what comes of any operations nor what goes on
over their setups in any interleaving. -/
structure Alike (m m' : Manager σ) : Prop where
  transcript : ∀ ops, m.transcript ops = m'.transcript ops
  runs : ∀ start beats s, Traffic.Run m.setup start beats s ↔ Traffic.Run m'.setup start beats s
  reports : ∀ w : World σ, w.snapshot m.setup = w.snapshot m'.setup

/-- A manager whose endpoints have no passwords. -/
def redact (m : Manager σ) : Manager σ := { m with setup := m.setup.redact }

end Manager

section Fields

variable (m : Manager σ)

@[simp] lemma Manager.world_redact : m.redact.world = m.world := rfl

@[simp] lemma Manager.settings_redact : m.redact.settings = m.settings := rfl

@[simp] lemma Manager.prober_redact : m.redact.prober = m.prober := rfl

end Fields

/-! ## Steps -/

section Steps

variable {setup : Setup σ} (hblind : setup.transport.Blind) (w : World σ)

include hblind

/-- A step of the prober reads nothing that redaction touches. -/
lemma Prober.step?_redact (p : Prober) : p.step? setup.redact w = p.step? setup w := by
  have hsize : setup.redact.registry.size = setup.registry.size := Registry.size_redact _
  unfold step?
  simp only [hsize, Cycle.step?_redact _ _ hblind]

/-- A step of a call reads nothing that redaction touches. -/
lemma CallTask.step?_redact (task : CallTask) : task.step? setup.redact w = task.step? setup w := by
  unfold step?
  simp only [Call.step?_redact _ _ hblind]

/-- Among the calls of a batch, redaction changes neither which one steps first nor its step. -/
lemma CallTask.stepFirst?_redact (tasks : List CallTask) :
    stepFirst? setup.redact w tasks = stepFirst? setup w tasks := by
  induction tasks with
  | nil => rfl
  | cons task rest ih =>
    unfold stepFirst?
    rw [step?_redact hblind, ih]

/-- What the caller waits for steps the same under the redacted setup. -/
lemma Foreground.step?_redact (f : Foreground) : f.step? setup.redact w = f.step? setup w := by
  unfold step?
  simp only [CallTask.stepFirst?_redact hblind, Cycle.step?_redact _ _ hblind]

end Steps

namespace Manager

variable {m m' : Manager σ}

/-- A step of a manager leaves its setup alone. -/
lemma setup_of_step? {n : Manager σ} {f f' : Foreground} {notes : Journal}
    (h : m.step? f = some (n, f', notes)) : n.setup = m.setup := by
  rw [step?_eq_stride?] at h
  obtain ⟨⟨x, g⟩, hstride, heq⟩ := Option.map_eq_some_iff.mp h
  cases heq
  exact ((Continues.refl m).makes (makes_of_stride? hstride)).setup

/-- The step of the background prober commutes with redaction. -/
lemma stepProber?_redact (hblind : m.setup.transport.Blind) :
    m.redact.stepProber? = m.stepProber?.map fun (n, notes) => (n.redact, notes) := by
  unfold stepProber?
  rw [prober_redact]
  cases m.prober with
  | none => rfl
  | some p =>
    have hstep : p.step? m.redact.setup m.redact.world = p.step? m.setup m.world :=
      Prober.step?_redact hblind _ p
    dsimp only
    rw [hstep, Option.map_map]
    rfl

/-- Waiting for the next moment commutes with redaction. -/
lemma moveOn?_redact (f : Foreground) : m.redact.moveOn? f = (m.moveOn? f).map redact := by
  have hmoment : m.redact.nextMoment? f = m.nextMoment? f := rfl
  unfold moveOn?
  rw [hmoment, world_redact]
  cases m.nextMoment? f with
  | none => rfl
  | some t =>
    dsimp only
    split <;> rfl

/-- A step of a manager whose endpoints have no passwords is a step of the manager. -/
lemma step?_redact (hblind : m.setup.transport.Blind) (f : Foreground) :
    m.redact.step? f = (m.step? f).map fun (n, f, notes) => (n.redact, f, notes) := by
  have hforeground : f.step? m.redact.setup m.redact.world = f.step? m.setup m.world :=
    Foreground.step?_redact hblind _ f
  unfold step? stepNow?
  show (if f.isOver m.world.now m.prober then _ else _) = _
  cases hover : f.isOver m.world.now m.prober with
  | true => rfl
  | false =>
    rw [hforeground, stepProber?_redact hblind, moveOn?_redact]
    cases f.step? m.setup m.world with
    | some out => simp [redact, hover]
    | none => cases m.stepProber? <;> cases m.moveOn? f <;> simp [redact, hover]

/-- Whatever a manager waits for, without passwords it comes to the same. -/
lemma drive_redact (hblind : m.setup.transport.Blind) (fuel : Nat) (f : Foreground)
    (past : List Note) :
    m.redact.drive fuel f past = ((m.drive fuel f past).1.redact, (m.drive fuel f past).2) := by
  induction fuel generalizing m f past with
  | zero => rfl
  | succ fuel ih =>
    unfold drive
    rw [step?_redact hblind]
    cases hstep : m.step? f with
    | none => rfl
    | some out =>
      obtain ⟨n, f', notes⟩ := out
      have hn : n.setup.transport.Blind := by
        rw [setup_of_step? hstep]
        exact hblind
      exact ih hn f' (notes.reverse ++ past)

/-- Waiting for the end of what the caller runs commutes with redaction. -/
lemma await_redact (hblind : m.setup.transport.Blind) (f : Foreground) :
    m.redact.await f = ((m.await f).1.redact, (m.await f).2) := drive_redact hblind stepLimit f []

/-! ## Operations -/

/-- A batch of calls answers the same and notes the same on the redacted manager. -/
lemma parallel_redact (hblind : m.setup.transport.Blind) (requests : List (Nat × Rpc.Request)) :
    m.redact.parallel requests =
      ((m.parallel requests).1, (m.parallel requests).2.1.redact, (m.parallel requests).2.2) := by
  unfold parallel
  simp only [world_redact, await_redact hblind]

/-- A call answers the same and notes the same on the redacted manager. -/
lemma call_redact (hblind : m.setup.transport.Blind) (request : Rpc.Request) :
    m.redact.call request =
      ((m.call request).1, (m.call request).2.1.redact, (m.call request).2.2) := by
  unfold call
  simp only [world_redact, await_redact hblind]

/-- A check of the health answers the same and notes the same on the redacted manager. -/
lemma checkHealth_redact (hblind : m.setup.transport.Blind) :
    m.redact.checkHealth = (m.checkHealth.1, m.checkHealth.2.1.redact, m.checkHealth.2.2) := by
  have hsize : m.redact.setup.registry.size = m.setup.registry.size := Registry.size_redact _
  unfold checkHealth
  rw [hsize, settings_redact, await_redact hblind]
  generalize m.await (.cycle (Cycle.start m.settings.probeMethod m.setup.registry.size)) = out
  obtain ⟨n, f, notes⟩ := out
  cases f <;> rfl

/-- Sleeping commutes with redaction. -/
lemma sleep_redact (hblind : m.setup.transport.Blind) (length : Duration) :
    m.redact.sleep length = ((m.sleep length).1.redact, (m.sleep length).2) := by
  rewrite [sleep_eq, world_redact, await_redact hblind, sleep_eq]
  obtain ⟨n, f, notes⟩ := m.await (.sleep (m.world.now + length.timerMillis))
  rfl

/-- Starting the prober commutes with redaction. -/
lemma start_redact : m.redact.start = (m.start.1.redact, m.start.2) := by
  unfold start
  rw [settings_redact, prober_redact]
  cases m.settings.healthChecksEnabled with
  | false => rfl
  | true => cases m.prober <;> rfl

/-- What a stop makes of the wait for a prober. -/
def dismissal (m : Manager σ) (p : Prober) (out : Manager σ × Foreground × Journal) :
    Manager σ × Journal :=
  let told : Journal :=
    if p.isEnded then [.event (.shutdownTriggered 0), .event .proberAlreadyExited]
    else [.event (.shutdownTriggered 1)]
  let event : Event :=
    if out.1.prober.all Prober.isEnded then .proberStopped
    else .proberOverdue (m.settings.stopTimeout.millis % 0x10000000000000000)
  ({ out.1 with prober := none }, told ++ out.2.2 ++ [.event event])

/-- With a prober to stop, `stop` is its dismissal after the wait for its end. -/
lemma stop_of_some {p : Prober} (hp : m.prober = some p) :
    m.stop = m.dismissal p (({ m with prober := some p.stop } : Manager σ).await
      (.join (some (m.world.now + m.settings.stopTimeout.timerMillis)))) := by
  unfold stop
  rw [hp]
  rfl

/-- Dismissing a prober commutes with redaction. -/
lemma dismissal_redact (p : Prober) (out : Manager σ × Foreground × Journal) :
    m.redact.dismissal p (out.1.redact, out.2) =
      ((m.dismissal p out).1.redact, (m.dismissal p out).2) := rfl

/-- Stopping the prober commutes with redaction. -/
lemma stop_redact (hblind : m.setup.transport.Blind) :
    m.redact.stop = (m.stop.1.redact, m.stop.2) := by
  cases hp : m.prober with
  | none =>
    have hp' : m.redact.prober = none := hp
    rw [stop_of_none hp, stop_of_none hp']
  | some p =>
    have hp' : m.redact.prober = some p := hp
    have hawait := await_redact (m := { m with prober := some p.stop }) hblind
    rw [stop_of_some hp, stop_of_some hp']
    exact (congrArg (m.redact.dismissal p) (hawait _)).trans (dismissal_redact ..)

/-- The status answers the same and notes the same on the redacted manager. -/
lemma status_redact : m.redact.status = (m.status.1, m.status.2.1.redact, m.status.2.2) := by
  have hsnapshot : m.redact.world.snapshot m.redact.setup = m.world.snapshot m.setup :=
    World.snapshot_redact _ _
  unfold status
  rw [hsnapshot]
  rfl

/-- The admin interface answers every request the same on the redacted manager. -/
lemma handle_redact (verb target : String) :
    Admin.handle m.redact verb target = ((Admin.handle m verb target).1,
      (Admin.handle m verb target).2.1.redact, (Admin.handle m verb target).2.2) := by
  unfold Admin.handle
  dsimp only
  rw [status_redact]
  cases Admin.isKnown (Admin.pathOf target) with
  | false => rfl
  | true =>
    cases verb ≠ "GET" && verb ≠ "HEAD" <;> rfl

/-- The text of a manager shows no password, so redaction leaves it as it is. -/
lemma toText_redact : m.redact.toText = m.toText := by
  have hcount : m.redact.endpointCount = m.endpointCount := Registry.size_redact _
  unfold toText
  rw [hcount]
  rfl

/-- An operation of a manager whose endpoints have no passwords comes to what it comes to. -/
lemma operate_redact (hblind : m.setup.transport.Blind) (op : Operation σ) :
    m.redact.operate op =
      ((m.operate op).1, (m.operate op).2.1.redact, (m.operate op).2.2) := by
  unfold operate
  cases op with
  | start => exact congrArg (Prod.mk _) start_redact
  | stop => exact congrArg (Prod.mk _) (stop_redact hblind)
  | call request => simp only [call_redact hblind]
  | calls requests => simp only [parallel_redact hblind]
  | checkHealth => simp only [checkHealth_redact hblind]
  | status => simp only [status_redact]
  | serve verb target => simp only [handle_redact]
  | describe => simp only [toText_redact]
  | sleep length => exact congrArg (Prod.mk _) (sleep_redact hblind length)
  | rewire change => rfl

/-- Calls side by side are what their activity comes to. -/
lemma exists_parallel_snd (m : Manager σ) (requests : List (Nat × Rpc.Request)) :
    ∃ f, (m.parallel requests).2 = ((m.await f).1, (m.await f).2.2) := by
  refine ⟨.calls (requests.map fun r => CallTask.delayed (m.world.now + r.1) r.2), ?_⟩
  unfold parallel
  dsimp only

/-- What a wait comes to has the setup of the manager. -/
lemma setup_of_eq_await {out : Manager σ × Journal} {f : Foreground}
    (h : out = ((m.await f).1, (m.await f).2.2)) : out.1.setup = m.setup := by
  obtain ⟨n, notes⟩ := out
  obtain ⟨rfl, -⟩ := Prod.mk.inj h
  exact ((Continues.refl m).await f).setup

/-- No operation changes the setup. -/
lemma setup_operate (m : Manager σ) (op : Operation σ) : (m.operate op).2.1.setup = m.setup := by
  unfold operate
  cases op with
  | start =>
    show m.start.1.setup = m.setup
    unfold start
    cases m.settings.healthChecksEnabled with
    | false => rfl
    | true => cases m.prober <;> rfl
  | stop => exact m.setup_stop.1
  | call request => exact setup_of_eq_await (m.call_snd request)
  | calls requests =>
    obtain ⟨f, hparallel⟩ := m.exists_parallel_snd requests
    exact setup_of_eq_await hparallel
  | checkHealth => exact setup_of_eq_await m.checkHealth_snd
  | status => rfl
  | serve verb target =>
    dsimp only
    unfold Admin.handle
    dsimp only
    cases Admin.isKnown (Admin.pathOf target) with
    | false => rfl
    | true => cases verb ≠ "GET" && verb ≠ "HEAD" <;> rfl
  | describe => rfl
  | sleep length => exact setup_of_eq_await (m.sleep_eq length)
  | rewire change => rfl

/-- Whatever a manager is asked for, without passwords it comes to the same. -/
lemma transcript_redact (hblind : m.setup.transport.Blind) (ops : List (Operation σ)) :
    m.redact.transcript ops = m.transcript ops := by
  induction ops generalizing m with
  | nil => rfl
  | cons op rest ih =>
    have hnext : (m.operate op).2.1.setup.transport.Blind := by
      rw [setup_operate]
      exact hblind
    unfold transcript
    rw [operate_redact hblind]
    exact congrArg (List.cons _) (ih hnext)

/-- Managers that differ in the passwords of their endpoints alone are alike. -/
lemma alike_of_redact (h : m.redact = m'.redact) (hblind : m.setup.transport.Blind) :
    m.Alike m' := by
  have hsetup : m.setup.redact = m'.setup.redact := congrArg Manager.setup h
  have hblind' : m'.setup.transport.Blind := by
    show m'.setup.redact.transport.Blind
    rw [← hsetup]
    exact hblind
  constructor
  · intro ops
    rw [← transcript_redact hblind, h, transcript_redact hblind']
  · intro start beats s
    rw [← Traffic.run_redact_iff hblind, hsetup, Traffic.run_redact_iff hblind']
  · intro w
    rw [← World.snapshot_redact, hsetup, World.snapshot_redact]

/-- Building without passwords gives the manager without them. -/
lemma build_redact (cs : List EndpointConfig) (settings : Settings) (transport : Rpc.Transport σ)
    (wire : σ) (clock : Clock) (draw : Nat → Nat) :
    build (cs.map .redact) settings transport wire clock draw =
      (build cs settings transport wire clock draw).map fun (m, notes) => (m.redact, notes) := by
  unfold build
  rw [Registry.ofConfigs_redact]
  cases settings.validate with
  | error e => rfl
  | ok u =>
    cases Registry.ofConfigs cs with
    | error e => rfl
    | ok registry =>
      show Except.ok (_, _) = Except.ok (_, _)
      rw [Registry.size_redact, Registry.primary_redact]
      rfl

end Manager

/-! ## What is shown -/

/-- Two lists of endpoints that nothing tells apart: no diagnostic text does, and over a transport
they are turned down with the same error or make managers that are alike. -/
structure ShownAlike (settings : Settings) (transport : Rpc.Transport σ)
    (cs cs' : List EndpointConfig) : Prop where
  configTexts : cs.map EndpointConfig.toText = cs'.map EndpointConfig.toText
  endpointTexts : (cs.map Endpoint.ofConfig).map Endpoint.toText =
    (cs'.map Endpoint.ofConfig).map Endpoint.toText
  documentTexts : ∀ c : Config,
    ({ c with endpoints := cs } : Config).toText = ({ c with endpoints := cs' } : Config).toText
  refused : ∀ wire clock draw e, Manager.build cs settings transport wire clock draw = .error e ↔
    Manager.build cs' settings transport wire clock draw = .error e
  built : ∀ wire clock draw m notes,
    Manager.build cs settings transport wire clock draw = .ok (m, notes) →
      ∃ m', Manager.build cs' settings transport wire clock draw = .ok (m', notes) ∧ m.Alike m'

/-- **Passwords stay in the transport.** Let two lists of endpoints differ in the passwords alone
and let the answers of a transport depend on nothing but URLs and requests. Then nothing that is
shown tells the lists apart. Nor does the loading of texts that decode to configurations which
differ in the passwords alone, if the variables that hold passwords are set in both environments or
in neither: it fails with the same error, or it gives such configurations again. -/
theorem passwords_stay_in_the_transport {transport : Rpc.Transport σ} (hblind : transport.Blind)
    (settings : Settings) {cs cs' : List EndpointConfig}
    (h : cs.map EndpointConfig.redact = cs'.map EndpointConfig.redact) :
    ShownAlike settings transport cs cs' ∧
      ∀ env env' text text',
        (Config.ofToml? text).map Config.redact = (Config.ofToml? text').map Config.redact →
        (∀ c, Config.ofToml? text = some c → ∀ e ∈ c.endpoints, e.SetAlike env env') →
        (Config.loadToml env text).map Config.redact =
          (Config.loadToml env' text').map Config.redact := by
  let forget : Manager σ × Journal → Manager σ × Journal := fun (m, notes) => (m.redact, notes)
  have hbuild : ∀ wire clock draw,
      (Manager.build cs settings transport wire clock draw).map forget =
        (Manager.build cs' settings transport wire clock draw).map forget := by
    intro wire clock draw
    rw [← Manager.build_redact, ← Manager.build_redact, h]
  have herror : ∀ (x : Except Error (Manager σ × Journal)) e,
      x = .error e ↔ x.map forget = .error e := by
    rintro (_ | _) e <;> simp [Except.map]
  refine ⟨⟨EndpointConfig.map_toText_congr h, EndpointConfig.map_ofConfig_toText_congr h, ?_, ?_,
    ?_⟩, ?_⟩
  · intro c
    refine Config.toText_congr ?_
    unfold Config.redact
    rw [h]
  · intro wire clock draw e
    rw [herror, hbuild, ← herror]
  · intro wire clock draw m notes hm
    have hbuild := hbuild wire clock draw
    rw [hm] at hbuild
    cases hm' : Manager.build cs' settings transport wire clock draw with
    | error e =>
      rw [hm'] at hbuild
      cases hbuild
    | ok out =>
      obtain ⟨m', notes'⟩ := out
      rw [hm'] at hbuild
      obtain ⟨hredact, rfl⟩ := Prod.mk.inj (Except.ok.inj hbuild)
      refine ⟨m', rfl, Manager.alike_of_redact hredact ?_⟩
      obtain ⟨-, registry, -, rfl, -⟩ := Manager.build_eq_ok_iff.mp hm
      exact hblind
  · intro env env' text text' htexts henv
    exact Config.load_congr htexts fun c hc e he => (henv c hc e he).proper

/-- One endpoint with one password or with another, on paper and in a file that names a variable
for it as well: over a scripted transport the managers are alike, and so is what is loaded from the
files, whatever the variable is set to. -/
theorem passwords_stay_in_the_transport_of_two :
    let own (password : String) : EndpointConfig :=
      { (EndpointConfig.ofUrl "http://a").withCredentials "u" password with
        passwordEnv := some "P" }
    let text (password : String) : String :=
      "[[endpoints]]\nurl = \"http://a\"\nusername = \"u\"\npassword_env = \"P\"\npassword = \"" ++
        password ++ "\"\n"
    own "x" ≠ own "y" ∧
      (∃ m m' notes,
        Manager.build [own "x"] .standard Rpc.Script.transport [] .standard (fun _ => 0) =
            .ok (m, notes) ∧
          Manager.build [own "y"] .standard Rpc.Script.transport [] .standard (fun _ => 0) =
            .ok (m', notes) ∧ m.Alike m') ∧
      Config.ofToml? (text "x") = some { Config.standard with endpoints := [own "x"] } ∧
      (Config.loadToml (fun _ => some "1") (text "x")).map Config.redact =
        (Config.loadToml (fun _ => some "2") (text "y")).map Config.redact := by
  intro own text
  have hsame : [own "x"].map EndpointConfig.redact = [own "y"].map EndpointConfig.redact := rfl
  have hx : Config.ofToml? (text "x") = some { Config.standard with endpoints := [own "x"] } := by
    decide +kernel
  have hy : Config.ofToml? (text "y") = some { Config.standard with endpoints := [own "y"] } := by
    decide +kernel
  obtain ⟨halike, hload⟩ :=
    passwords_stay_in_the_transport Rpc.Script.blind_transport .standard hsame
  refine ⟨by decide, ?_, hx, ?_⟩
  · have hordered : ([own "x"].map Endpoint.ofConfig).Pairwise fun a b => a.priority ≤ b.priority :=
      List.pairwise_singleton _ _
    obtain ⟨m, notes, hm⟩ : ∃ m notes, Manager.build [own "x"] .standard Rpc.Script.transport []
        .standard (fun _ => 0) = .ok (m, notes) :=
      ⟨_, _, Manager.build_eq_ok_iff.mpr
        ⟨rfl, _, Registry.ofConfigs_of_ordered (List.cons_ne_nil _ _) hordered, rfl, rfl⟩⟩
    obtain ⟨m', hm', hmanagers⟩ := halike.built [] .standard (fun _ => 0) m notes hm
    exact ⟨m, m', notes, hm, hm', hmanagers⟩
  · refine hload (fun _ => some "1") (fun _ => some "2") (text "x") (text "y") ?_ ?_
    · rw [hx, hy]
      rfl
    · intro c _ e _ name _
      rfl

end Failover
