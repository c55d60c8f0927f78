import Failover.Proofs.Config.Redaction
import Failover.Proofs.Traffic.Run
import Failover.Rpc.Script

/-!
# Traffic without passwords

The endpoints of a setup are read by every step of a call and of a probe, but their passwords reach
the transport and nothing else. If the answers of the transport do not depend on them either
(`Rpc.Transport.Blind`), a step with the endpoints of a setup and one with their redactions are the
same step: it leads to the same traffic and leaves the same in the journal.
-/

namespace Failover

variable {σ : Type}

/-- A transport whose answers depend on the URL of an endpoint and on nothing else of it. -/
def Rpc.Transport.Blind (t : Rpc.Transport σ) : Prop :=
  ∀ wire e e' request, e.url = e'.url → t.send wire e request = t.send wire e' request

/-- A script is played by URL. -/
lemma Rpc.Script.blind_transport : Script.transport.Blind := by
  intro script e e' request hurl
  show script.next e.url = script.next e'.url
  rw [hurl]

/-- A setup whose endpoints have no passwords. -/
def Setup.redact (setup : Setup σ) : Setup σ := { setup with registry := setup.registry.redact }

section Fields

variable (e : Endpoint) (setup : Setup σ)

/-- The URL of an endpoint is no secret. -/
@[simp] lemma Endpoint.url_redact : e.redact.url = e.url := rfl

/-- The name that is shown for an endpoint tells no secret. -/
@[simp] lemma Endpoint.displayName_redact : e.redact.displayName = e.displayName := rfl

/-- The budget of an endpoint does not depend on its password. -/
@[simp] lemma RetryPolicy.forEndpoint_redact (policy : RetryPolicy) :
    policy.forEndpoint e.redact = policy.forEndpoint e := rfl

/-- The redacted registry has the redacted endpoint at each index. -/
@[simp] lemma Setup.get?_redact (index : Nat) :
    setup.redact.registry.get? index = (setup.registry.get? index).map Endpoint.redact :=
  Registry.get?_redact _ _

@[simp] lemma Setup.policy_redact : setup.redact.policy = setup.policy := rfl

@[simp] lemma Setup.draw_redact : setup.redact.draw = setup.draw := rfl

/-- The clocks show the same. -/
@[simp] lemma World.reading_redact (w : World σ) : w.reading setup.redact = w.reading setup := rfl

end Fields

/-! ## The world -/

namespace Tracker

variable (t : Tracker) (index : Nat) (e : Endpoint)

/-- The breaker of an endpoint does not depend on its password. -/
lemma isOpen_redact (now : Instant) : t.isOpen now e.redact = t.isOpen now e := rfl

/-- Taking in a success does not depend on the password. -/
lemma recordSuccess_redact (now : Reading) (latency : Duration) (observer : Observer) :
    t.recordSuccess now index e.redact latency observer =
      t.recordSuccess now index e latency observer := by
  unfold recordSuccess
  rw [e.displayName_redact, e.url_redact]

/-- Taking in a failure does not depend on the password. -/
lemma recordFailure_redact (now : Reading) (observer : Observer) :
    t.recordFailure now index e.redact observer = t.recordFailure now index e observer := by
  unfold recordFailure
  rw [e.displayName_redact, e.url_redact]

/-- No entry of a report shows a password. -/
lemma statuses_redact (now : Instant) (endpoints : List Endpoint) :
    statuses now t index (endpoints.map Endpoint.redact) = statuses now t index endpoints := by
  induction endpoints generalizing t index with
  | nil => rfl
  | cons e rest ih =>
    rw [List.map_cons]
    unfold statuses
    simp only [isOpen_redact, ih]
    rfl

end Tracker

namespace World

variable (setup : Setup σ) (w : World σ) (index : Nat) (e : Endpoint)

/-- A transport that does not look at passwords sends the same. -/
lemma send_redact (hblind : setup.transport.Blind) (request : Rpc.Request) :
    w.send setup.redact e.redact request = w.send setup e request := by
  have hanswer : setup.redact.transport.send w.wire e.redact request =
      setup.transport.send w.wire e request := hblind _ _ _ _ rfl
  unfold send
  rw [hanswer]
  rfl

/-- The verdict on an endpoint does not depend on its password. -/
lemma eligibility_redact :
    w.eligibility setup.redact index e.redact = w.eligibility setup index e := by
  have hlast : setup.redact.registry.isLast index = setup.registry.isLast index :=
    Registry.isLast_redact _ _
  unfold eligibility
  rw [hlast]
  rfl

/-- A success of a redacted endpoint leaves the same world. -/
lemma recordSuccess_redact (latency : Duration) (observer : Observer) :
    w.recordSuccess setup.redact index e.redact latency observer =
      w.recordSuccess setup index e latency observer := by
  unfold recordSuccess
  rw [reading_redact, Tracker.recordSuccess_redact]

/-- A failure of a redacted endpoint leaves the same world. -/
lemma recordFailure_redact (observer : Observer) :
    w.recordFailure setup.redact index e.redact observer =
      w.recordFailure setup index e observer := by
  unfold recordFailure
  rw [reading_redact, Tracker.recordFailure_redact]

/-- Reports show no passwords. -/
lemma snapshot_redact : w.snapshot setup.redact = w.snapshot setup := by
  have hstatuses : w.tracker.snapshot (w.reading setup).instant setup.redact.registry =
      w.tracker.snapshot (w.reading setup).instant setup.registry := by
    unfold Tracker.snapshot
    rw [← Tracker.statuses_redact _ _ _ setup.registry.endpoints]
    rfl
  unfold snapshot
  rw [reading_redact, hstatuses]

end World

/-! ## Calls and cycles -/

namespace Call

variable {setup : Setup σ} (w : World σ) (c : Call) (index : Nat) (e : Endpoint)

/-- An attempt at a redacted endpoint is the same attempt. -/
lemma attempt_redact (hblind : setup.transport.Blind) (attempt : Nat) :
    c.attempt setup.redact w index attempt e.redact = c.attempt setup w index attempt e := by
  unfold Call.attempt
  rw [World.send_redact setup w e hblind, e.displayName_redact]

/-- A call looks at a redacted endpoint as at the endpoint itself. -/
lemma look_redact (hblind : setup.transport.Blind) :
    c.look setup.redact w index = c.look setup w index := by
  unfold look
  rw [Setup.get?_redact]
  cases setup.registry.get? index with
  | none => rfl
  | some e =>
    simp only [Option.map_some, World.eligibility_redact, attempt_redact _ _ _ _ hblind,
      e.displayName_redact]

/-- What an attempt leads to does not depend on a password. -/
lemma settle_redact (attempt since : Nat) (ending : Rpc.Ending) :
    c.settle setup.redact w index attempt since e.redact ending =
      c.settle setup w index attempt since e ending := by
  have hsucceed : ∀ v, c.succeed setup.redact w index since e.redact v =
      c.succeed setup w index since e v := by
    intro v
    unfold succeed
    simp only [World.recordSuccess_redact, e.displayName_redact]
  have hgiveUp : ∀ failure, c.giveUp setup.redact w index e.redact failure =
      c.giveUp setup w index e failure := by
    intro failure
    unfold giveUp
    rw [World.recordFailure_redact, e.displayName_redact]
  unfold settle
  simp only [Setup.policy_redact, Setup.draw_redact, RetryPolicy.forEndpoint_redact, hsucceed,
    hgiveUp]

/-- A call makes the same steps with redacted endpoints. -/
lemma step?_redact (hblind : setup.transport.Blind) : c.step? setup.redact w = c.step? setup w := by
  unfold step?
  cases c.phase with
  | looking index => exact congrArg some (look_redact w c index hblind)
  | waiting index attempt since settled =>
    simp only [Setup.get?_redact, Option.map_map, Function.comp_def, settle_redact]
  | pausing index attempt endsAt =>
    simp only [Setup.get?_redact, Option.map_map, Function.comp_def, attempt_redact _ _ _ _ hblind]
  | ended result => rfl

end Call

namespace Cycle

variable {setup : Setup σ} (w : World σ) (c : Cycle) (index : Nat)

/-- What a probe leads to does not depend on a password. -/
lemma settle_redact (e : Endpoint) (probes : List ProbePhase) (since : Nat) (ending : Rpc.Ending) :
    c.settle setup.redact w probes index since e.redact ending =
      c.settle setup w probes index since e ending := by
  unfold settle
  simp only [World.recordSuccess_redact, World.recordFailure_redact, e.displayName_redact]

/-- A probe makes the same steps at redacted endpoints. -/
lemma stepAt?_redact (hblind : setup.transport.Blind) :
    c.stepAt? setup.redact w index = c.stepAt? setup w index := by
  unfold stepAt?
  cases c.phase with
  | faulted f => rfl
  | running probes =>
    dsimp only
    rw [Setup.get?_redact]
    cases probes[index]? with
    | none => rfl
    | some probe =>
      cases setup.registry.get? index with
      | none => cases probe <;> rfl
      | some e =>
        cases probe with
        | unsent => simp only [Option.map_some, World.send_redact setup w e hblind]
        | waiting since settled => simp only [Option.map_some, settle_redact]
        | done => rfl

/-- A cycle makes the same steps with redacted endpoints. -/
lemma step?_redact (hblind : setup.transport.Blind) :
    c.step? setup.redact w = c.step? setup w := by
  unfold step?
  exact Option.bind_congr fun index _ => stepAt?_redact w c index hblind

end Cycle

/-! ## Runs -/

namespace Traffic

variable {setup : Setup σ}

/-- A move leads to the same traffic and leaves the same in the journal. -/
lemma next?_redact (hblind : setup.transport.Blind) (s : Traffic σ) (m : Move σ) :
    s.next? setup.redact m = s.next? setup m := by
  cases m with
  | call request => rfl
  | cycle method =>
    show some (({ s with cycles := s.cycles ++
      [Cycle.start method setup.registry.redact.size] } : Traffic σ), _) = _
    rw [Registry.size_redact]
    rfl
  | advance id =>
    show s.calls[id]?.bind (s.stepCall setup.redact id) = s.calls[id]?.bind (s.stepCall setup id)
    unfold stepCall
    simp only [Call.step?_redact _ _ hblind]
  | probe id index =>
    show s.cycles[id]?.bind (s.stepProbe setup.redact id index) =
      s.cycles[id]?.bind (s.stepProbe setup id index)
    unfold stepProbe
    simp only [Cycle.stepAt?_redact _ _ _ hblind]
  | report =>
    unfold next?
    rw [World.snapshot_redact]
  | elapse millis => rfl
  | rewire change => rfl

/-- A run is one of the setup whether or not its endpoints have passwords. -/
lemma run_redact_iff (hblind : setup.transport.Blind) {start s : Traffic σ}
    {beats : List (Beat σ)} : Run setup.redact start beats s ↔ Run setup start beats s := by
  constructor
  · intro h
    induction h with
    | nil => exact .nil
    | snoc _ hnext ih =>
      rw [next?_redact hblind] at hnext
      exact ih.snoc hnext
  · intro h
    induction h with
    | nil => exact .nil
    | snoc _ hnext ih =>
      rw [← next?_redact hblind] at hnext
      exact ih.snoc hnext

end Traffic

end Failover
