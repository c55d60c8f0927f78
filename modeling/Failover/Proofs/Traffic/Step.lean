import Failover.Manager
import Failover.Proofs.Tracker.Log
import Mathlib.Tactic.Common

/-!
# Steps of calls, probes and the prober

`Call.Takes` lists the steps that a call can take, one constructor each, `Cycle.Takes` those of one
probe of a cycle, and `Prober.Takes` those of the background prober. Everything about single steps
is proved by cases on them.

A step touches the tracker only by what it asks of it (`Call.deeds`, `Cycle.deeds`), at most one
deed each: a look asks for the verdict on an endpoint, and the end of a visit or of a probe is one
observation at the index of its endpoint.
-/

namespace Failover

variable {σ : Type}

/-! ## Questions and observations of a world -/

/-- Nothing but log events: no measurement, and nothing that was sent. -/
def Journal.OnlyEvents (j : Journal) : Prop := ∀ note ∈ j, ∃ e, note = .event e

/-- A journal of events alone sends nothing. -/
lemma Journal.OnlyEvents.sendings {j : Journal} (h : j.OnlyEvents) : j.sendings = [] := by
  refine List.filterMap_eq_nil_iff.mpr ?_
  intro note hnote
  obtain ⟨e, rfl⟩ := h note hnote
  rfl

/-- A journal of events alone measures nothing. -/
lemma Journal.OnlyEvents.measurements {j : Journal} (h : j.OnlyEvents) : j.measurements = [] := by
  refine List.filterMap_eq_nil_iff.mpr ?_
  intro note hnote
  obtain ⟨e, rfl⟩ := h note hnote
  rfl

/-- Whether only calls make such a measurement: of an end, of an endpoint that was tried or of one
that was passed over. -/
def Measurement.isOfCall : Measurement → Bool
  | .call .. | .attempt .. | .skip .. => true
  | _ => false

/-- Nothing but log events and measurements that calls do not make, as a tracker leaves them. -/
def Journal.OfTracker (j : Journal) : Prop :=
  ∀ note ∈ j, (∃ e, note = .event e) ∨ ∃ m : Measurement, note = .measured m ∧ m.isOfCall = false

/-- The notes of the tracker send nothing. -/
lemma Journal.OfTracker.sendings {j : Journal} (h : j.OfTracker) : j.sendings = [] := by
  refine List.filterMap_eq_nil_iff.mpr ?_
  intro note hnote
  rcases h note hnote with ⟨e, rfl⟩ | ⟨m, rfl, -⟩
  · rfl
  · rfl

/-- The notes of the tracker measure no call. -/
lemma Journal.OfTracker.filter_isOfCall {j : Journal} (h : j.OfTracker) :
    j.measurements.filter Measurement.isOfCall = [] := by
  refine List.filter_eq_nil_iff.mpr ?_
  intro m hm
  obtain ⟨note, hnote, hmeasured⟩ := List.mem_filterMap.mp hm
  rcases h note hnote with ⟨e, rfl⟩ | ⟨other, rfl, hother⟩
  · cases hmeasured
  · cases hmeasured
    simp [hother]

namespace Tracker

/-- The check of a breaker notes events alone. -/
lemma onlyEvents_checkNotes (key : String) (found : BreakerCheck) :
    Journal.OnlyEvents (checkNotes key found) := by
  intro note hnote
  cases found with
  | closed => cases hnote
  | opened => cases hnote
  | elapsed => exact ⟨_, List.mem_singleton.mp hnote⟩

/-- The statuses of the endpoints note events alone. -/
lemma onlyEvents_statuses (t : Tracker) (now : Instant) (index : Nat) (endpoints : List Endpoint) :
    Journal.OnlyEvents (statuses now t index endpoints).2.2 := by
  induction endpoints generalizing t index with
  | nil => exact nofun
  | cons endpoint rest ih =>
    intro note hnote
    rcases List.mem_append.mp hnote with hcheck | hrest
    · exact onlyEvents_checkNotes _ _ note hcheck
    · exact ih _ _ note hrest

end Tracker

namespace World

variable (setup : Setup σ) (w : World σ) (index : Nat) (endpoint : Endpoint)

/-- The tracker after a judgement of an endpoint. -/
lemma eligibility_tracker :
    (w.eligibility setup index endpoint).2.1.tracker =
      w.tracker.after
        ⟨w.reading setup, .judge index endpoint (setup.registry.isLast index)⟩ := rfl

/-- The tracker after a success. -/
lemma recordSuccess_tracker (latency : Duration) (observer : Observer) :
    (w.recordSuccess setup index endpoint latency observer).1.tracker =
      w.tracker.after ⟨w.reading setup, .success index endpoint latency observer⟩ := rfl

/-- A success takes no time. -/
lemma recordSuccess_now (latency : Duration) (observer : Observer) :
    (w.recordSuccess setup index endpoint latency observer).1.now = w.now := rfl

/-- The tracker after a failure. -/
lemma recordFailure_tracker (observer : Observer) :
    (w.recordFailure setup index endpoint observer).1.tracker =
      w.tracker.after ⟨w.reading setup, .failure index endpoint observer⟩ := by
  rw [Tracker.after, Tracker.perform_eq_recordFailure]
  rfl

/-- A failure takes no time. -/
lemma recordFailure_now (observer : Observer) :
    (w.recordFailure setup index endpoint observer).1.now = w.now := rfl

/-- The fault of a failure is that of its entry. -/
lemma recordFailure_fault (observer : Observer) :
    (w.recordFailure setup index endpoint observer).2.2 =
      w.tracker.fault? ⟨w.reading setup, .failure index endpoint observer⟩ := by
  rw [Tracker.fault?, Tracker.answer, Tracker.perform_eq_recordFailure]
  rfl

/-- A question leaves nothing but log events. -/
lemma onlyEvents_eligibility :
    Journal.OnlyEvents (w.eligibility setup index endpoint).2.2 :=
  Tracker.onlyEvents_checkNotes _ _

/-- A snapshot notes events alone. -/
lemma onlyEvents_snapshot : Journal.OnlyEvents (w.snapshot setup).2.2 :=
  Tracker.onlyEvents_statuses _ _ _ _

/-- Taking in a success leaves log events and its own measurement. -/
lemma ofTracker_recordSuccess (latency : Duration) (observer : Observer) :
    Journal.OfTracker (w.recordSuccess setup index endpoint latency observer).2 := by
  unfold recordSuccess Tracker.recordSuccess
  dsimp only
  split
  · exact nofun
  · intro note hnote
    cases observer with
    | probe => exact Or.inr ⟨_, List.mem_singleton.mp hnote, rfl⟩
    | call =>
      rcases List.mem_append.mp hnote with hrecovered | hhealth
      · split at hrecovered
        · cases hrecovered
        · exact Or.inl ⟨_, List.mem_singleton.mp hrecovered⟩
      · exact Or.inr ⟨_, List.mem_singleton.mp hhealth, rfl⟩

/-- Taking in a failure leaves log events and its own measurements. -/
lemma ofTracker_recordFailure (observer : Observer) :
    Journal.OfTracker (w.recordFailure setup index endpoint observer).2.1 := by
  unfold recordFailure Tracker.recordFailure
  dsimp only
  split
  · exact nofun
  · split
    · split <;> simp [Journal.OfTracker, Measurement.isOfCall]
    · simp [Journal.OfTracker, Measurement.isOfCall]

end World

/-! ## Calls -/

namespace Call

/-- The steps that a call can take in a world. -/
inductive Takes (setup : Setup σ) (w : World σ) (c : Call) : World σ × Call × Journal → Prop
  /-- There is no endpoint left. -/
  | exhaust {index : Nat} : c.phase = .looking index → setup.registry.get? index = none →
    Takes setup w c (c.exhaust w)
  /-- The endpoint may not be tried. -/
  | skip {index : Nat} {endpoint : Endpoint} {notes : Journal} : c.phase = .looking index →
    setup.registry.get? index = some endpoint →
    (w.eligibility setup index endpoint).1.allows = false → notes.sendings = [] →
    notes.measurements =
      [.skip endpoint.displayName (w.eligibility setup index endpoint).1] →
    Takes setup w c ((w.eligibility setup index endpoint).2.1,
      { c with phase := .looking (index + 1) }, notes)
  /-- The endpoint may be tried: the first attempt. -/
  | visit {index : Nat} {endpoint : Endpoint} {next : World σ} {notes : Journal} :
    c.phase = .looking index → setup.registry.get? index = some endpoint →
    (w.eligibility setup index endpoint).1.allows = true →
    next = (w.eligibility setup index endpoint).2.1 → notes.sendings = [] →
    notes.measurements = [] →
    Takes setup w c ((c.attempt setup next index 0 endpoint).1,
      (c.attempt setup next index 0 endpoint).2.1,
      notes ++ (c.attempt setup next index 0 endpoint).2.2)
  /-- The attempt ends in a fault. -/
  | crash {index attempt since : Nat} {settled : Rpc.Settled} {endpoint : Endpoint} {f : Fault} :
    c.phase = .waiting index attempt since settled → since + settled.after ≤ w.now →
    setup.registry.get? index = some endpoint → settled.ending = .fault f →
    Takes setup w c (w, { c with phase := .ended (.fault f) }, [])
  /-- The attempt brings a value. -/
  | succeed {index attempt since : Nat} {settled : Rpc.Settled} {endpoint : Endpoint} {v : Json} :
    c.phase = .waiting index attempt since settled → since + settled.after ≤ w.now →
    setup.registry.get? index = some endpoint → settled.ending = .result (.ok v) →
    Takes setup w c (c.succeed setup w index since endpoint v)
  /-- The attempt fails, and it was the last one. -/
  | giveUp {index attempt since : Nat} {settled : Rpc.Settled} {endpoint : Endpoint}
    {failure : Rpc.Failure} :
    c.phase = .waiting index attempt since settled → since + settled.after ≤ w.now →
    setup.registry.get? index = some endpoint → settled.ending = .result (.error failure) →
    (setup.policy.forEndpoint endpoint).maxAttempts ≤ attempt + 1 →
    Takes setup w c (c.giveUp setup w index endpoint failure)
  /-- The attempt fails, and another one follows after a pause. -/
  | pause {index attempt since : Nat} {settled : Rpc.Settled} {endpoint : Endpoint}
    {failure : Rpc.Failure} {drawn endsAt : Nat} {event : Event} :
    c.phase = .waiting index attempt since settled → since + settled.after ≤ w.now →
    setup.registry.get? index = some endpoint → settled.ending = .result (.error failure) →
    attempt + 1 < (setup.policy.forEndpoint endpoint).maxAttempts →
    Takes setup w c ({ w with drawn := drawn },
      { c with phase := .pausing index (attempt + 1) endsAt }, [.event event])
  /-- The pause is over: another attempt. -/
  | resume {index attempt endsAt : Nat} {endpoint : Endpoint} :
    c.phase = .pausing index attempt endsAt → endsAt ≤ w.now →
    setup.registry.get? index = some endpoint →
    Takes setup w c (c.attempt setup w index attempt endpoint)

/-- The world after a success is the one in which it was reported. -/
lemma succeed_world (setup : Setup σ) (w : World σ) (c : Call) (index since : Nat)
    (endpoint : Endpoint) (v : Json) :
    (c.succeed setup w index since endpoint v).1 =
      (w.recordSuccess setup index endpoint (Duration.ofMillis (w.now - since)) .call).1 := rfl

/-- The world after a visit was given up is the one in which the failure was reported. -/
lemma giveUp_world (setup : Setup σ) (w : World σ) (c : Call) (index : Nat) (endpoint : Endpoint)
    (failure : Rpc.Failure) :
    (c.giveUp setup w index endpoint failure).1 =
      (w.recordFailure setup index endpoint .call).1 := by
  unfold giveUp
  dsimp only
  split <;> rfl

/-- Running out of endpoints measures the end of the call. -/
lemma measurements_exhaust (w : World σ) (c : Call) :
    (c.exhaust w).2.2.measurements =
      [.call c.request.method .exhausted,
        .callDuration c.request.method (Duration.ofMillis (w.now - c.began)).toSeconds] := by
  unfold exhaust
  dsimp only
  split <;> rfl

/-- A value is measured by the tracker, for its endpoint, and as the end of the call. -/
lemma measurements_succeed (setup : Setup σ) (w : World σ) (c : Call) (index since : Nat)
    (endpoint : Endpoint) (v : Json) :
    (c.succeed setup w index since endpoint v).2.2.measurements =
      (w.recordSuccess setup index endpoint (Duration.ofMillis (w.now - since))
          .call).2.measurements ++
        [.attempt endpoint.displayName true, .call c.request.method .success,
          .callDuration c.request.method (Duration.ofMillis (w.now - c.began)).toSeconds] := by
  unfold succeed endNotes
  simp

/-- Giving a visit up is measured by the tracker and for its endpoint. -/
lemma measurements_giveUp (setup : Setup σ) (w : World σ) (c : Call) (index : Nat)
    (endpoint : Endpoint) (failure : Rpc.Failure)
    (hfault : (w.recordFailure setup index endpoint .call).2.2 = none) :
    (c.giveUp setup w index endpoint failure).2.2.measurements =
      (w.recordFailure setup index endpoint .call).2.1.measurements ++
        [.attempt endpoint.displayName false] := by
  unfold giveUp
  dsimp only
  rw [hfault]
  simp

/-- A look at an endpoint skips it or begins a visit. -/
lemma takes_look (setup : Setup σ) (w : World σ) (c : Call) {index : Nat}
    (hphase : c.phase = .looking index) : c.Takes setup w (c.look setup w index) := by
  unfold look
  split
  case h_1 hnone => exact .exhaust hphase hnone
  case h_2 endpoint hsome =>
    have hquiet := w.onlyEvents_eligibility setup index endpoint
    dsimp only
    split
    case isTrue hallows =>
      exact .visit hphase hsome hallows rfl hquiet.sendings hquiet.measurements
    case isFalse hforbids =>
      refine .skip hphase hsome (by simpa using hforbids) ?_ ?_
      · rw [Journal.sendings_append, hquiet.sendings]
        rfl
      · rw [Journal.measurements_append, hquiet.measurements]
        rfl

/-- The end of an attempt ends the call, moves it on to the next endpoint or makes it pause. -/
lemma takes_settle (setup : Setup σ) (w : World σ) (c : Call) {index attempt since : Nat}
    {settled : Rpc.Settled} {endpoint : Endpoint}
    (hphase : c.phase = .waiting index attempt since settled)
    (hdue : since + settled.after ≤ w.now) (hget : setup.registry.get? index = some endpoint) :
    c.Takes setup w (c.settle setup w index attempt since endpoint settled.ending) := by
  unfold settle
  cases hending : settled.ending with
  | fault f => exact .crash hphase hdue hget hending
  | result r =>
    cases r with
    | ok v => exact .succeed hphase hdue hget hending
    | error failure =>
      by_cases hleft : attempt + 1 < (setup.policy.forEndpoint endpoint).maxAttempts
      · simp only [RetryPolicy.next, hleft, if_true]
        exact .pause hphase hdue hget hending hleft
      · simp only [RetryPolicy.next, hleft, if_false]
        exact .giveUp hphase hdue hget hending (Nat.le_of_not_lt hleft)

/-- Every step of a call is one of those that `Takes` lists. -/
theorem takes_of_step? {setup : Setup σ} {w : World σ} {c : Call} {out : World σ × Call × Journal}
    (h : c.step? setup w = some out) : c.Takes setup w out := by
  unfold step? at h
  split at h
  case h_1 index hphase =>
    cases h
    exact takes_look setup w c hphase
  case h_2 index attempt since settled hphase =>
    split at h
    case isTrue hdue =>
      obtain ⟨endpoint, hget, rfl⟩ := Option.map_eq_some_iff.mp h
      exact takes_settle setup w c hphase hdue hget
    case isFalse => cases h
  case h_3 index attempt endsAt hphase =>
    split at h
    case isTrue hdue =>
      obtain ⟨endpoint, hget, rfl⟩ := Option.map_eq_some_iff.mp h
      exact .resume hphase hdue hget
    case isFalse => cases h
  case h_4 => cases h

/-- A step keeps the request of a call. -/
lemma request_of_takes {setup : Setup σ} {w : World σ} {c : Call} {out : World σ × Call × Journal}
    (h : c.Takes setup w out) : out.2.1.request = c.request := by
  cases h with
  | giveUp =>
    unfold giveUp
    dsimp only
    split <;> rfl
  | exhaust => rfl
  | skip => rfl
  | visit => rfl
  | crash => rfl
  | succeed => rfl
  | pause => rfl
  | resume => rfl

/-- What a step of a call in a world asks of the tracker. -/
def deeds (setup : Setup σ) (w : World σ) (c : Call) : List Tracker.Deed :=
  match c.phase with
  | .looking index =>
    match setup.registry.get? index with
    | some endpoint => [.judge index endpoint (setup.registry.isLast index)]
    | none => []
  | .waiting index attempt since settled =>
    match setup.registry.get? index, settled.ending with
    | some endpoint, .result (.ok _) =>
      [.success index endpoint (Duration.ofMillis (w.now - since)) .call]
    | some endpoint, .result (.error _) =>
      if attempt + 1 < (setup.policy.forEndpoint endpoint).maxAttempts then []
      else [.failure index endpoint .call]
    | _, _ => []
  | _ => []

/-- A call asks for an endpoint by its index. -/
lemma deeds_fit (setup : Setup σ) (w : World σ) (c : Call) :
    ∀ deed ∈ c.deeds setup w, deed.Fits setup.registry := by
  intro deed hdeed
  unfold deeds at hdeed
  split at hdeed
  case h_1 index _ =>
    split at hdeed
    case h_1 =>
      obtain rfl := List.mem_singleton.mp hdeed
      trivial
    case h_2 => cases hdeed
  case h_2 index attempt since settled _ =>
    split at hdeed
    case h_1 endpoint v hget _ =>
      obtain rfl := List.mem_singleton.mp hdeed
      exact hget
    case h_2 endpoint failure hget _ =>
      split at hdeed
      case isTrue => cases hdeed
      case isFalse =>
        obtain rfl := List.mem_singleton.mp hdeed
        exact hget
    case h_3 => cases hdeed
  case h_3 => cases hdeed

/-- The tracker after a step has done what the step asked of it, and nothing else. -/
theorem tracker_of_step? {setup : Setup σ} {w : World σ} {c : Call} {out : World σ × Call × Journal}
    (h : c.step? setup w = some out) :
    out.1.tracker = w.tracker.replay ((c.deeds setup w).map (⟨w.reading setup, ·⟩)) := by
  cases takes_of_step? h with
  | exhaust hphase hget => simp [deeds, hphase, hget, exhaust]
  | skip hphase hget _ _ => simp [deeds, hphase, hget, World.eligibility_tracker]
  | visit hphase hget _ hnext _ =>
    subst hnext
    simp only [deeds, hphase, hget]
    rfl
  | crash hphase _ hget hending => simp [deeds, hphase, hget, hending]
  | succeed hphase _ hget hending =>
    rw [succeed_world, World.recordSuccess_tracker]
    simp [deeds, hphase, hget, hending]
  | giveUp hphase _ hget hending hlast =>
    rw [giveUp_world, World.recordFailure_tracker]
    simp [deeds, hphase, hget, hending, Nat.not_lt.mpr hlast]
  | pause hphase _ hget hending hleft => simp [deeds, hphase, hget, hending, hleft]
  | resume hphase _ hget =>
    simp only [deeds, hphase]
    rfl

end Call

/-! ## Probes -/

namespace Cycle

/-- The cycle in which the probe with an index is in another phase. -/
def setProbe (c : Cycle) (probes : List ProbePhase) (index : Nat) (phase : ProbePhase) : Cycle :=
  { c with phase := .running (probes.set index phase) }

/-- The steps that the probe with an index can take in a world. -/
inductive Takes (setup : Setup σ) (w : World σ) (c : Cycle) (index : Nat) :
    World σ × Cycle × Journal → Prop
  /-- The probe is sent. -/
  | send {probes : List ProbePhase} {endpoint : Endpoint} : c.phase = .running probes →
    probes[index]? = some .unsent → setup.registry.get? index = some endpoint →
    Takes setup w c index ((w.send setup endpoint c.request).2.1,
      c.setProbe probes index (.waiting w.now (w.send setup endpoint c.request).1),
      (w.send setup endpoint c.request).2.2)
  /-- The probe ends in a fault, and with it the cycle. -/
  | crash {probes : List ProbePhase} {since : Nat} {settled : Rpc.Settled} {endpoint : Endpoint}
    {f : Fault} : c.phase = .running probes → probes[index]? = some (.waiting since settled) →
    since + settled.after ≤ w.now → setup.registry.get? index = some endpoint →
    settled.ending = .fault f → Takes setup w c index (w, { c with phase := .faulted f }, [])
  /-- The probe brings a value. -/
  | succeed {probes : List ProbePhase} {since : Nat} {settled : Rpc.Settled} {endpoint : Endpoint}
    {r : Rpc.Result Json} {v : Json} {notes : Journal} : c.phase = .running probes →
    probes[index]? = some (.waiting since settled) → since + settled.after ≤ w.now →
    setup.registry.get? index = some endpoint → settled.ending = .result r → outcome r = .ok v →
    notes.measurements =
      (w.recordSuccess setup index endpoint (Duration.ofMillis (w.now - since))
          .probe).2.measurements ++
        [.probe endpoint.displayName true] →
    Takes setup w c index
      ((w.recordSuccess setup index endpoint (Duration.ofMillis (w.now - since)) .probe).1,
        c.setProbe probes index .done, notes)
  /-- The probe fails. -/
  | fail {probes : List ProbePhase} {since : Nat} {settled : Rpc.Settled} {endpoint : Endpoint}
    {r : Rpc.Result Json} {failure : Rpc.Failure} {notes : Journal} : c.phase = .running probes →
    probes[index]? = some (.waiting since settled) → since + settled.after ≤ w.now →
    setup.registry.get? index = some endpoint → settled.ending = .result r →
    outcome r = .error failure → (w.recordFailure setup index endpoint .probe).2.2 = none →
    notes.measurements = (w.recordFailure setup index endpoint .probe).2.1.measurements ++
      [.probe endpoint.displayName false] →
    Takes setup w c index
      ((w.recordFailure setup index endpoint .probe).1, c.setProbe probes index .done, notes)
  /-- The probe fails, and taking this in ends in a fault. -/
  | overflow {probes : List ProbePhase} {since : Nat} {settled : Rpc.Settled} {endpoint : Endpoint}
    {r : Rpc.Result Json} {failure : Rpc.Failure} {f : Fault} {notes : Journal} :
    c.phase = .running probes → probes[index]? = some (.waiting since settled) →
    since + settled.after ≤ w.now → setup.registry.get? index = some endpoint →
    settled.ending = .result r → outcome r = .error failure →
    (w.recordFailure setup index endpoint .probe).2.2 = some f →
    notes.measurements = (w.recordFailure setup index endpoint .probe).2.1.measurements →
    Takes setup w c index
      ((w.recordFailure setup index endpoint .probe).1, { c with phase := .faulted f }, notes)

/-- The end of a probe is a success, a failure or a fault. -/
lemma takes_settle (setup : Setup σ) (w : World σ) (c : Cycle) {probes : List ProbePhase}
    {index since : Nat} {settled : Rpc.Settled} {endpoint : Endpoint}
    (hphase : c.phase = .running probes)
    (hprobe : probes[index]? = some (.waiting since settled)) (hdue : since + settled.after ≤ w.now)
    (hget : setup.registry.get? index = some endpoint) :
    c.Takes setup w index (c.settle setup w probes index since endpoint settled.ending) := by
  unfold settle
  cases hending : settled.ending with
  | fault f => exact .crash hphase hprobe hdue hget hending
  | result r =>
    cases houtcome : outcome r with
    | ok v =>
      simp only [houtcome]
      refine .succeed hphase hprobe hdue hget hending houtcome ?_
      rw [List.cons_append, Journal.measurements_cons_event, Journal.measurements_append]
      rfl
    | error failure =>
      simp only [houtcome]
      cases hfault : (w.recordFailure setup index endpoint .probe).2.2 with
      | none =>
        refine .fail hphase hprobe hdue hget hending houtcome hfault ?_
        rw [List.cons_append, Journal.measurements_cons_event, Journal.measurements_append]
        rfl
      | some f => exact .overflow hphase hprobe hdue hget hending houtcome hfault rfl

/-- Every step of a probe is one of those that `Takes` lists. -/
theorem takes_of_stepAt? {setup : Setup σ} {w : World σ} {c : Cycle} {index : Nat}
    {out : World σ × Cycle × Journal} (h : c.stepAt? setup w index = some out) :
    c.Takes setup w index out := by
  unfold stepAt? at h
  split at h
  case h_1 => cases h
  case h_2 probes hphase =>
    split at h
    case h_1 endpoint hprobe hget =>
      cases h
      exact .send hphase hprobe hget
    case h_2 since settled endpoint hprobe hget =>
      split at h
      case isTrue hdue =>
        cases h
        exact takes_settle setup w c hphase hprobe hdue hget
      case isFalse => cases h
    case h_3 => cases h

/-- What a step of one probe asks of the tracker. -/
def deeds (setup : Setup σ) (w : World σ) (c : Cycle) (index : Nat) : List Tracker.Deed :=
  match c.phase with
  | .faulted _ => []
  | .running probes =>
    match probes[index]?, setup.registry.get? index with
    | some (.waiting since settled), some endpoint =>
      match settled.ending with
      | .fault _ => []
      | .result r =>
        match outcome r with
        | .ok _ => [.success index endpoint (Duration.ofMillis (w.now - since)) .probe]
        | .error _ => [.failure index endpoint .probe]
    | _, _ => []

/-- A probe reports on the endpoint with its index. -/
lemma deeds_fit (setup : Setup σ) (w : World σ) (c : Cycle) (index : Nat) :
    ∀ deed ∈ c.deeds setup w index, deed.Fits setup.registry := by
  intro deed hdeed
  unfold deeds at hdeed
  split at hdeed
  case h_1 => cases hdeed
  case h_2 probes _ =>
    split at hdeed
    case h_1 since settled endpoint _ hget =>
      split at hdeed
      case h_1 => cases hdeed
      case h_2 r _ =>
        split at hdeed
        · obtain rfl := List.mem_singleton.mp hdeed
          exact hget
        · obtain rfl := List.mem_singleton.mp hdeed
          exact hget
    case h_2 => cases hdeed

/-- The tracker after a step has done what the step asked of it, and nothing else. -/
theorem tracker_of_stepAt? {setup : Setup σ} {w : World σ} {c : Cycle} {index : Nat}
    {out : World σ × Cycle × Journal} (h : c.stepAt? setup w index = some out) :
    out.1.tracker = w.tracker.replay ((c.deeds setup w index).map (⟨w.reading setup, ·⟩)) := by
  cases takes_of_stepAt? h with
  | send hphase hprobe hget =>
    simp only [deeds, hphase, hprobe, hget]
    rfl
  | crash hphase hprobe _ hget hending => simp [deeds, hphase, hprobe, hget, hending]
  | succeed hphase hprobe _ hget hending houtcome =>
    rw [World.recordSuccess_tracker]
    simp [deeds, hphase, hprobe, hget, hending, houtcome]
  | fail hphase hprobe _ hget hending houtcome _ =>
    rw [World.recordFailure_tracker]
    simp [deeds, hphase, hprobe, hget, hending, houtcome]
  | overflow hphase hprobe _ hget hending houtcome _ =>
    rw [World.recordFailure_tracker]
    simp [deeds, hphase, hprobe, hget, hending, houtcome]

end Cycle

/-! ## The background prober -/

namespace Prober

open Time

/-- The steps that the background prober can take in a world. -/
inductive Takes (setup : Setup σ) (w : World σ) (p : Prober) :
    World σ × Prober × Journal → Prop
  /-- It begins to wait for its first tick, which is due at once. -/
  | begin {notes : Journal} : p.phase = .spawned → notes.OnlyEvents →
    Takes setup w p (w, { p with phase := .idle (w.now * nanosPerMilli) }, notes)
  /-- It was told to end. -/
  | quit {tick : Nat} {notes : Journal} : p.phase = .idle tick → p.stopping = true →
    notes.OnlyEvents → Takes setup w p (w, { p with phase := .ended }, notes)
  /-- A tick: a new cycle begins. -/
  | tick {tick next : Nat} : p.phase = .idle tick → p.stopping = false →
    tickMillis tick ≤ w.now →
    Takes setup w p
      (w, { p with phase := .cycling next (Cycle.start p.method setup.registry.size) }, [])
  /-- One probe of the cycle makes a step. -/
  | probe {tick index : Nat} {c c' : Cycle} {next : World σ} {notes : Journal} :
    p.phase = .cycling tick c → c.isOver = false →
    c.stepAt? setup w index = some (next, c', notes) →
    Takes setup w p (next, { p with phase := .cycling tick c' }, notes)
  /-- The cycle is over, and the prober waits for the next tick. It tells if a fault ended it. -/
  | rest {tick : Nat} {c : Cycle} {notes : Journal} : p.phase = .cycling tick c →
    c.isOver = true → notes.OnlyEvents →
    (∀ f, c.fault? = some f → notes = [.event (.cycleFaulted (f.text.getD "unknown panic"))]) →
    Takes setup w p (w, { p with phase := .idle tick }, notes)

/-- Every step of the prober is one of those that `Takes` lists. -/
theorem takes_of_step? {setup : Setup σ} {w : World σ} {p : Prober}
    {out : World σ × Prober × Journal} (h : p.step? setup w = some out) :
    p.Takes setup w out := by
  unfold step? at h
  split at h
  case h_1 hphase =>
    cases h
    exact .begin hphase fun note hnote => ⟨_, List.mem_singleton.mp hnote⟩
  case h_2 tick hphase =>
    split at h
    case isTrue hstopping =>
      cases h
      exact .quit hphase hstopping fun note hnote => ⟨_, List.mem_singleton.mp hnote⟩
    case isFalse hstopping =>
      split at h
      case isTrue hdue =>
        cases h
        exact .tick hphase (by simpa using hstopping) hdue
      case isFalse => cases h
  case h_3 tick c hphase =>
    split at h
    case isTrue hover =>
      cases h
      cases hfault : c.fault? with
      | none => exact .rest hphase hover nofun fun f hf => absurd (hfault.symm.trans hf) nofun
      | some f =>
        refine .rest hphase hover (fun note hnote => ⟨_, List.mem_singleton.mp hnote⟩) ?_
        intro g hg
        cases hfault.symm.trans hg
        rfl
    case isFalse hover =>
      obtain ⟨⟨next, c', notes⟩, hcycle, heq⟩ := Option.map_eq_some_iff.mp h
      cases heq
      obtain ⟨index, -, hprobe⟩ := Option.bind_eq_some_iff.mp hcycle
      exact .probe hphase (by simpa using hover) hprobe
  case h_4 => cases h

end Prober

/-! ## Time -/

/-- No step of a call takes time. -/
lemma Call.now_of_step? {setup : Setup σ} {w : World σ} {c : Call} {out : World σ × Call × Journal}
    (h : c.step? setup w = some out) : out.1.now = w.now := by
  cases Call.takes_of_step? h with
  | exhaust => rfl
  | skip => rfl
  | visit _ _ _ hnext _ =>
    subst hnext
    rfl
  | crash => rfl
  | succeed => rw [Call.succeed_world, World.recordSuccess_now]
  | giveUp => rw [Call.giveUp_world, World.recordFailure_now]
  | pause => rfl
  | resume => rfl

/-- No step of a probe takes time. -/
lemma Cycle.now_of_stepAt? {setup : Setup σ} {w : World σ} {c : Cycle} {index : Nat}
    {out : World σ × Cycle × Journal} (h : c.stepAt? setup w index = some out) :
    out.1.now = w.now := by
  cases Cycle.takes_of_stepAt? h with
  | send => rfl
  | crash => rfl
  | succeed => rw [World.recordSuccess_now]
  | fail => rw [World.recordFailure_now]
  | overflow => rw [World.recordFailure_now]

end Failover
