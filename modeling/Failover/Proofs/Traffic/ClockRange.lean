import Failover.Proofs.Config.Acceptance
import Failover.Proofs.Prober.Sweep
import Failover.Proofs.Traffic.Trips

/-!
# Timeouts within the range of the clock

The one addition that can end in a fault is that of the breaker timeout to the time of a failure. A
timeout that a configuration asks for is a machine word of milliseconds, so a clock that can show
the longest of them after the end of a run could show every end that the run asked for: no entry of
its log ends in a fault, and over a transport without faults neither does a call
(`Traffic.Run.call_at`) or a cycle (`Cycle.Sound`).

The other numbers stop or have room. The number of failures in a row stops at the largest machine
word, which no threshold exceeds, so an endpoint that has reached the threshold stays unhealthy
until a success is observed, however many failures there are.
-/

namespace Failover

open Time

/-- The longest breaker timeout that a configuration can ask for, in nanoseconds. -/
def BreakerConfig.longestTimeout : Nat := 0xffffffffffffffff * nanosPerMilli

/-- The breakers of a configuration stay open for as long as it says. -/
lemma Settings.breakerTimeout_ofConfig (c : Config) :
    (ofConfig c).breakerTimeout.nanos = c.breaker.timeoutMs.toNat * nanosPerMilli :=
  Duration.nanos_ofMillis_toNat c.breaker.timeoutMs

/-- No configured timeout of a breaker is longer than the longest. -/
lemma BreakerConfig.timeoutMs_le_longestTimeout (b : BreakerConfig) :
    b.timeoutMs.toNat * nanosPerMilli ≤ longestTimeout :=
  Nat.mul_le_mul_right _ (Nat.le_of_lt_succ b.timeoutMs.toNat_lt)

/-! ## Failures in a row -/

/-- Further failures add up to those since the last success. -/
lemma Observation.failuresInRow_append {history more : List Observation}
    (hmore : ∀ o ∈ more, o.isFailure = true) :
    failuresInRow (history ++ more) = failuresInRow history + more.length := by
  have hreverse : ∀ o ∈ more.reverse, o.isFailure = true := by simpa using hmore
  unfold failuresInRow
  rw [List.reverse_append, List.takeWhile_append_of_pos hreverse, List.length_append,
    List.length_reverse, Nat.add_comm]

/-- An endpoint that has reached the threshold stays unhealthy while nothing but failures of it is
observed: the number of failures in a row does not fall below the threshold where it stops. -/
lemma HealthRecord.Reflects.unhealthy_of_failures {threshold : Nat} {history more : List Observation}
    {r r' : HealthRecord} (h : r.Reflects threshold history)
    (h' : r'.Reflects threshold (history ++ more)) (hreached : threshold ≤ r.consecutiveFailures)
    (hmore : ∀ o ∈ more, o.isFailure = true) : r'.status = .unhealthy := by
  have hrow := h'.consecutiveFailures
  rw [Observation.failuresInRow_append hmore] at hrow
  rw [h.consecutiveFailures] at hreached
  rw [h'.unhealthy_iff]
  omega

namespace Tracker

variable {t : Tracker} {log : Log}

/-! ## Logs on a clock that can show the ends of breakers -/

/-- If the clock can show the end of a timeout, an entry does not end in a fault. -/
lemma fault?_eq_none {e : Entry}
    (hclock : e.time.instant.nanos + t.breakers.timeout.nanos < Instant.limit) :
    t.fault? e = none := by
  obtain ⟨time, deed⟩ := e
  cases deed with
  | failure index endpoint observer => exact fault?_failure_eq_none hclock index endpoint observer
  | success index endpoint latency observer => rfl
  | judge index endpoint isLast => rfl
  | inquire endpoint => rfl
  | survey registry => rfl

/-- A log that leaves room for the timeout before the end of the clock is without fault. -/
lemma faultless_of_clock
    (hclock : ∀ e ∈ log, e.time.instant.nanos + t.breakers.timeout.nanos < Instant.limit) :
    t.Faultless log := by
  induction log generalizing t with
  | nil => trivial
  | cons e rest ih =>
    obtain ⟨hfirst, hrest⟩ := List.forall_mem_cons.mp hclock
    refine ⟨fault?_eq_none hfirst, ih ?_⟩
    rwa [after_timeout]

/-- What trips the breaker of a URL is a failure of an endpoint with this URL. -/
lemma exists_failure_of_trips {key : String} {e : Entry} (h : t.trips key e = true) :
    ∃ index endpoint observer, e.deed = .failure index endpoint observer ∧ endpoint.url = key := by
  unfold trips at h
  split at h
  case h_1 index endpoint observer hdeed =>
    simp only [Bool.and_eq_true, decide_eq_true_eq] at h
    exact ⟨index, endpoint, observer, hdeed, h.1.1⟩
  case h_2 => cases h

/-- In a table that was empty at first, every entry lies exactly one timeout after a failure of an
endpoint with its URL. -/
lemma exists_failure_of_until? (hempty : ∀ key, t.breakers.until? key = none)
    (hfaultless : t.Faultless log) {key : String} {endsAt : Instant}
    (h : (t.replay log).breakers.until? key = some endsAt) :
    ∃ time index endpoint observer,
      (⟨time, .failure index endpoint observer⟩ : Entry) ∈ log ∧ endpoint.url = key ∧
        endsAt.nanos = time.instant.nanos + t.breakers.timeout.nanos := by
  induction log using List.reverseRecOn with
  | nil => exact absurd ((hempty key).symm.trans h) nofun
  | append_singleton log e ih =>
    obtain ⟨hpast, hlast, -⟩ := faultless_append.mp hfaultless
    rw [replay_concat] at h
    cases htrips : (t.replay log).trips key e with
    | true =>
      obtain ⟨index, endpoint, observer, hdeed, hurl⟩ := exists_failure_of_trips htrips
      rw [until?_after_of_trips htrips hlast, replay_timeout] at h
      obtain rfl := Option.some.inj h
      obtain ⟨time, deed⟩ := e
      obtain rfl : deed = _ := hdeed
      exact ⟨time, index, endpoint, observer, by simp, hurl, rfl⟩
    | false =>
      obtain ⟨time, index, endpoint, observer, hmem, hurl, hends⟩ :=
        ih hpast (until?_of_not_trips htrips h)
      exact ⟨time, index, endpoint, observer, List.mem_append_left _ hmem, hurl, hends⟩

/-! ## The numbers of a record -/

/-- An index has no more history than a log has observations. -/
lemma length_history_le (index : Nat) (log : Log) :
    (history index log).length ≤ (observations log).length := by
  have hobserves : ∀ e : Entry, (e.observation? index).isSome → e.deed.isObservation = true := by
    rintro ⟨time, deed⟩ h
    cases deed <;> first | rfl | cases h
  unfold history observations
  rw [List.length_filterMap_eq_countP, ← List.countP_eq_length_filter]
  exact List.countP_mono_left fun e _ => hobserves e

end Tracker

/-! ## Cycles without faults -/

variable {σ : Type} {setup : Setup σ}

namespace Cycle

/-- No fault has ended the cycle, and none is on its way. -/
def Sound (c : Cycle) : Prop :=
  ∃ probes, c.phase = .running probes ∧
    ∀ since settled, .waiting since settled ∈ probes → ∀ f, settled.ending ≠ .fault f

/-- A cycle that has just begun is sound. -/
lemma sound_start (method : String) (count : Nat) : (start method count).Sound := by
  refine ⟨_, rfl, ?_⟩
  intro since settled hmem
  cases List.eq_of_mem_replicate hmem

variable {c : Cycle} {w : World σ} {index : Nat}

/-- A sound cycle has no fault. -/
lemma Sound.fault?_eq_none (h : c.Sound) : c.fault? = none := by
  obtain ⟨probes, hphase, -⟩ := h
  rw [fault?, hphase]

/-- A probe that is done or that a fault will not end leaves a cycle sound. -/
lemma Sound.setProbe (h : c.Sound) {probes : List ProbePhase} (hphase : c.phase = .running probes)
    {probe : ProbePhase}
    (hprobe : ∀ since settled, probe = .waiting since settled → ∀ f, settled.ending ≠ .fault f) :
    (c.setProbe probes index probe).Sound := by
  obtain ⟨probes', hphase', hsound⟩ := h
  cases hphase.symm.trans hphase'
  refine ⟨_, rfl, ?_⟩
  intro since settled hmem
  rcases List.mem_or_eq_of_mem_set hmem with hold | hnew
  · exact hsound since settled hold
  · exact hprobe since settled hnew.symm

/-- Over a transport without faults a step leaves a cycle sound unless taking in a failure ends in a
fault. -/
lemma Sound.after_step {out : World σ × Cycle × Journal} (h : c.Sound)
    (htransport : setup.transport.Faultless) (htakes : c.Takes setup w index out)
    (hfaultless : w.tracker.Faultless ((c.deeds setup w index).map (⟨w.reading setup, ·⟩))) :
    out.2.1.Sound := by
  cases htakes with
  | send hphase =>
    refine h.setProbe hphase ?_
    rintro since settled ⟨⟩
    exact World.ending_ne_fault htransport
  | succeed hphase => exact h.setProbe hphase nofun
  | fail hphase => exact h.setProbe hphase nofun
  | crash hphase hprobe _ _ hending =>
    obtain ⟨probes, hphase', hsound⟩ := h
    cases hphase.symm.trans hphase'
    exact absurd hending (hsound _ _ (List.mem_of_getElem? hprobe) _)
  | overflow hphase hprobe _ hget hending houtcome hfault =>
    simp only [deeds, hphase, hprobe, hget, hending, houtcome, List.map_cons, List.map_nil,
      Tracker.Faultless] at hfaultless
    rw [World.recordFailure_fault, hfaultless.1] at hfault
    cases hfault

end Cycle

namespace Traffic

open Tracker

variable {start s s' : Traffic σ} {beats : List (Beat σ)} {notes : Journal}

/-- A cycle after a move was there before, has just begun, or one of its probes has made a step. -/
lemma mem_cycles_of_next? {m : Move σ} {c' : Cycle} (h : s.next? setup m = some (s', notes))
    (hc' : c' ∈ s'.cycles) :
    c' ∈ s.cycles ∨ (∃ method, c' = .start method setup.registry.size) ∨
      ∃ id index c, m = .probe id index ∧ s.cycles[id]? = some c ∧
        c.stepAt? setup s.world index = some (s'.world, c', notes) := by
  cases m with
  | probe id index =>
    obtain ⟨c, d, hc, hstep, hcycles, -⟩ := next?_probe_eq_some h
    rw [hcycles] at hc'
    rcases List.mem_or_eq_of_mem_set hc' with hold | rfl
    · exact Or.inl hold
    · exact Or.inr (Or.inr ⟨id, index, c, rfl, hc, hstep⟩)
  | cycle method =>
    cases h
    rcases List.mem_append.mp hc' with hold | hnew
    · exact Or.inl hold
    · exact Or.inr (Or.inl ⟨method, List.mem_singleton.mp hnew⟩)
  | advance id =>
    obtain ⟨-, -, -, -, -, hcycles⟩ := next?_advance_eq_some h
    rw [hcycles] at hc'
    exact Or.inl hc'
  | call request =>
    cases h
    exact Or.inl hc'
  | report =>
    cases h
    exact Or.inl hc'
  | elapse millis =>
    cases h
    exact Or.inl hc'
  | rewire change =>
    cases h
    exact Or.inl hc'

/-- Over a transport without faults, the cycles of a run are sound if no entry of its log ends in a
fault. -/
lemma Run.cycle_sound (hrun : Run setup start beats s) (hidle : start.cycles = [])
    (htransport : setup.transport.Faultless)
    (hfaultless : start.world.tracker.Faultless (log setup beats)) {c : Cycle}
    (hc : c ∈ s.cycles) : c.Sound := by
  induction hrun generalizing c with
  | nil => simp [hidle] at hc
  | @snoc beats s m s' notes hrun hnext ih =>
    rw [log_concat] at hfaultless
    obtain ⟨hpast, hlast⟩ := faultless_append.mp hfaultless
    rw [← hrun.tracker] at hlast
    rcases mem_cycles_of_next? hnext hc with hold | ⟨method, rfl⟩ | ⟨id, index, d, rfl, hd, hstep⟩
    · exact ih hpast hold
    · exact Cycle.sound_start method _
    · simp only [Beat.log, Beat.deeds, hd, Option.map_some, Option.getD_some] at hlast
      exact (ih hpast (List.mem_of_getElem? hd)).after_step htransport
        (Cycle.takes_of_stepAt? hstep) hlast

/-! ## Runs of configured managers -/

/-- What holds of a run, from its start to its end, as long as the clock can show the ends of all
timeouts. -/
structure InRange (m : Manager σ) (breaker : BreakerConfig) (beats : List (Beat σ))
    (s : Traffic σ) : Prop where
  /-- Nothing that was asked of the tracker has ended in a fault, and no call or cycle has. -/
  faultless : m.world.tracker.Faultless (log m.setup beats)
  calls : ∀ c ∈ s.calls, ∀ f, c.result? ≠ some (.fault f)
  cycles : ∀ c ∈ s.cycles, c.fault? = none
  /-- A failure that leaves its endpoint unhealthy opens the breaker until one timeout later. -/
  opens : ∀ before b later index endpoint observer, beats = before ++ b :: later →
    b.deeds m.setup = [.failure index endpoint observer] →
    (b.after.world.tracker.recordAt index).status = .unhealthy →
    b.after.world.tracker.breakers.until? endpoint.url =
      some ⟨(b.before.reading m.setup).instant.nanos + breaker.timeoutMs.toNat * nanosPerMilli⟩
  /-- No breaker is open until anything else, and the clock can show all of these times. -/
  entries : ∀ key endsAt, s.world.tracker.breakers.until? key = some endsAt →
    endsAt.nanos < Instant.limit ∧ ∃ time index endpoint observer,
      (⟨time, .failure index endpoint observer⟩ : Entry) ∈ log m.setup beats ∧
        endpoint.url = key ∧
        endsAt.nanos = time.instant.nanos + breaker.timeoutMs.toNat * nanosPerMilli
  /-- The number of failures in a row is the true one, or it has stopped at the largest word. -/
  consecutiveFailures : ∀ index < m.setup.registry.size,
    (s.world.tracker.recordAt index).consecutiveFailures =
      min (Observation.failuresInRow (history index (log m.setup beats))) 0xffffffff
  /-- The numbers of requests fit in their words. -/
  requests : ∀ index < m.setup.registry.size,
    (s.world.tracker.recordAt index).successfulRequests ≤
        (s.world.tracker.recordAt index).totalRequests ∧
      (s.world.tracker.recordAt index).totalRequests < 2 ^ 64
  /-- An endpoint that has reached the threshold is unhealthy until a success of it is observed. -/
  unhealthy : ∀ before later mid, beats = before ++ later →
    Run m.setup (idle m.world) before mid → ∀ index < m.setup.registry.size,
    max breaker.threshold.toNat 1 ≤ (mid.world.tracker.recordAt index).consecutiveFailures →
    (∀ o ∈ history index (log m.setup later), o.isFailure = true) →
    (s.world.tracker.recordAt index).status = .unhealthy

section Configured

variable {c : Config} {registry : Registry} {transport : Rpc.Transport σ} {wire : σ} {clock : Clock}
  {draw : Nat → Nat} {m : Manager σ}
  (hm : m = Manager.fresh registry (.ofConfig c) transport wire clock draw)
  (hrun : Run m.setup (idle m.world) beats s)

include hm

/-- The breakers of a configured manager have the timeout of its configuration. -/
lemma nanos_timeout_of_configured :
    m.world.tracker.breakers.timeout.nanos = c.breaker.timeoutMs.toNat * nanosPerMilli := by
  subst hm
  exact Settings.breakerTimeout_ofConfig c

include hrun

/-- A run that ends in time asked for no end that the clock cannot show. -/
lemma Run.ends_in_range
    (hclock : (s.reading m.setup).instant.nanos + BreakerConfig.longestTimeout < Instant.limit) :
    ∀ e ∈ log m.setup beats,
      e.time.instant.nanos + m.world.tracker.breakers.timeout.nanos < Instant.limit := by
  intro e he
  have hpast := hrun.log_le e he
  have hbound := c.breaker.timeoutMs_le_longestTimeout
  rw [nanos_timeout_of_configured hm]
  omega

/-- A failure that a run takes in opens the breaker of its endpoint until exactly one timeout later,
if the endpoint is unhealthy after it. -/
lemma Run.opens_of_configured {before later : List (Beat σ)} {b : Beat σ} {index : Nat}
    {endpoint : Endpoint} {observer : Observer}
    (hends : ∀ e ∈ log m.setup beats,
      e.time.instant.nanos + m.world.tracker.breakers.timeout.nanos < Instant.limit)
    (hsplit : beats = before ++ b :: later)
    (hdeeds : b.deeds m.setup = [.failure index endpoint observer])
    (hunhealthy : (b.after.world.tracker.recordAt index).status = .unhealthy) :
    b.after.world.tracker.breakers.until? endpoint.url =
      some ⟨(b.before.reading m.setup).instant.nanos +
        c.breaker.timeoutMs.toNat * nanosPerMilli⟩ := by
  subst hsplit
  let e : Entry := ⟨b.before.reading m.setup, .failure index endpoint observer⟩
  obtain ⟨hbefore, hnext, -⟩ := hrun.cut
  have hlog : b.log m.setup = [e] := by
    rw [Beat.log, hdeeds]
    rfl
  have hafter : b.after.world.tracker = b.before.world.tracker.after e := by
    rw [tracker_of_next? hnext, hlog]
    rfl
  have hmem : e ∈ log m.setup (before ++ b :: later) := by
    refine List.mem_flatMap.mpr ⟨b, by simp, ?_⟩
    rw [hlog]
    exact List.mem_singleton_self e
  have htimeout : b.before.world.tracker.breakers.timeout = m.world.tracker.breakers.timeout := by
    rw [hbefore.tracker, replay_timeout]
    rfl
  have hfault : b.before.world.tracker.fault? e = none := by
    refine fault?_eq_none ?_
    rw [htimeout]
    exact hends e hmem
  have hindex : index < b.before.world.tracker.records.length := by
    have hget : m.setup.registry.get? index = some endpoint := fits_log m.setup _ e hmem
    rw [hbefore.tracker]
    subst hm
    exact lt_length_records_replay_new _ _ (List.getElem?_eq_some_iff.mp hget).1 _
  have htrips : b.before.world.tracker.trips endpoint.url e = true := by
    rw [hafter] at hunhealthy
    simp [trips, e, hindex, hunhealthy]
  rw [hafter, until?_after_of_trips htrips hfault, htimeout, nanos_timeout_of_configured hm]

/-- A run of a configured manager stays in range if it ends in time. -/
lemma Run.inRange (htransport : transport.Faultless)
    (hclock : (s.reading m.setup).instant.nanos + BreakerConfig.longestTimeout < Instant.limit)
    (hfew : (observations (log m.setup beats)).length < 2 ^ 64) : InRange m c.breaker beats s := by
  have hends := hrun.ends_in_range hm hclock
  have hfaultless := faultless_of_clock hends
  have hsetup : m.setup.transport.Faultless ∧
      m.setup.policy = .new (Settings.ofConfig c).maxRetries (Settings.ofConfig c).backoffUnit ∧
      m.world.tracker = .new m.setup.registry.size c.breaker.threshold
        (Settings.ofConfig c).breakerTimeout := by
    subst hm
    exact ⟨htransport, rfl, rfl⟩
  obtain ⟨hquiet, hpolicy, hfresh⟩ := hsetup
  have hempty : ∀ key, m.world.tracker.breakers.until? key = none := by
    rw [hfresh]
    exact new_until? _ _ _
  refine {
    faultless := hfaultless
    calls := ?_
    cycles := fun d hd => (hrun.cycle_sound rfl hquiet hfaultless hd).fault?_eq_none
    opens := fun before b later index endpoint observer => hrun.opens_of_configured hm hends
    entries := ?_
    consecutiveFailures := fun index hindex =>
      (hrun.recordAt_reflects hfresh hindex).consecutiveFailures
    requests := ?_
    unhealthy := ?_ }
  · intro d hd f hresult
    obtain ⟨id, hid⟩ := List.mem_iff_getElem?.mp hd
    obtain ⟨hat, -, -⟩ := hrun.call_at rfl hpolicy hquiet hfaultless hid
    rw [Call.result?_eq_some_iff] at hresult
    simp only [Call.At, hresult] at hat
  · intro key endsAt hentry
    rw [hrun.tracker] at hentry
    obtain ⟨time, index, endpoint, observer, hmem, hurl, hnanos⟩ :=
      exists_failure_of_until? hempty hfaultless hentry
    refine ⟨?_, time, index, endpoint, observer, hmem, hurl, ?_⟩
    · rw [hnanos]
      exact hends _ hmem
    · rw [hnanos, nanos_timeout_of_configured hm]
  · intro index hindex
    have hreflects := hrun.recordAt_reflects hfresh hindex
    refine ⟨hreflects.successful_le_total, ?_⟩
    rw [hreflects.totalRequests]
    calc (history index (log m.setup beats)).countP Observation.isCall
        ≤ (history index (log m.setup beats)).length := List.countP_le_length
      _ ≤ (observations (log m.setup beats)).length := length_history_le index _
      _ < 2 ^ 64 := hfew
  · intro before later mid hsplit hmid index hindex hreached hfailures
    have hreflects := hrun.recordAt_reflects hfresh hindex
    rw [hsplit, log_append, history, List.filterMap_append] at hreflects
    exact (hmid.recordAt_reflects hfresh hindex).unhealthy_of_failures hreflects hreached hfailures

end Configured

/-- **Configured timeouts stay on the clock.** A configuration with any endpoint at all has a
manager before anything happened, which is the one that is built from it if its settings are
accepted. Over a transport without faults, whatever calls, probe cycles and reports go on at any
pace: as long as the clock can show the longest timeout that can be configured and there are fewer
observations than a machine word can count, nothing ends in a fault, every breaker is open until
exactly one timeout after a failure, and no number of a record leaves its range. -/
theorem configured_timeouts_stay_on_clock {c : Config} (hsome : c.endpoints ≠ [])
    {transport : Rpc.Transport σ} (htransport : transport.Faultless) :
    ∃ registry, Registry.ofConfigs c.endpoints = .ok registry ∧
      ∀ (wire : σ) (clock : Clock) (draw : Nat → Nat),
        let m := Manager.fresh registry (.ofConfig c) transport wire clock draw
        (∀ built notes,
          Manager.build c.endpoints (.ofConfig c) transport wire clock draw = .ok (built, notes) →
            built = m) ∧
          ∀ beats s, Run m.setup (idle m.world) beats s →
            (s.reading m.setup).instant.nanos + BreakerConfig.longestTimeout < Instant.limit →
            (observations (log m.setup beats)).length < 2 ^ 64 →
            InRange m c.breaker beats s := by
  obtain ⟨registry, hregistry⟩ : ∃ registry, Registry.ofConfigs c.endpoints = .ok registry := by
    unfold Registry.ofConfigs
    rw [dif_neg hsome]
    exact ⟨_, rfl⟩
  refine ⟨registry, hregistry, ?_⟩
  intro wire clock draw m
  refine ⟨?_, fun beats s hrun => hrun.inRange rfl htransport⟩
  intro built notes hbuild
  obtain ⟨-, other, hother, hfresh, -⟩ := Manager.build_eq_ok_iff.mp hbuild
  obtain rfl : registry = other := Except.ok.inj (hregistry.symm.trans hother)
  exact hfresh.symm

/-- The longest timeout and a threshold of one, on a clock that can just show the end: the failure
of a probe opens the breaker until the last instant of the clock, and nothing ends in a fault. -/
theorem configured_timeouts_stay_on_clock_until_its_end :
    let c : Config := { Config.standard with
      endpoints := [default]
      breaker := ⟨1, 0xffffffffffffffff⟩ }
    let refusing : Rpc.Transport Unit := ⟨fun _ _ _ => (⟨0, .result (.error .emptyResult)⟩, ())⟩
    let clock : Clock := ⟨⟨⟨Instant.limit - 1 - BreakerConfig.longestTimeout⟩, default⟩⟩
    c.endpoints ≠ [] ∧ refusing.Faultless ∧ ∃ registry beats s,
      let m := Manager.fresh registry (.ofConfig c) refusing () clock fun _ => 0
      Registry.ofConfigs c.endpoints = .ok registry ∧ Run m.setup (idle m.world) beats s ∧
        (s.reading m.setup).instant.nanos + BreakerConfig.longestTimeout < Instant.limit ∧
        (observations (log m.setup beats)).length < 2 ^ 64 ∧
        s.world.tracker.breakers.until? (default : EndpointConfig).url = some ⟨Instant.limit - 1⟩ ∧
        InRange m c.breaker beats s := by
  intro c refusing clock
  have hsome : c.endpoints ≠ [] := List.cons_ne_nil _ _
  have hfaultless : refusing.Faultless := fun _ _ _ _ => nofun
  let registry : Registry := ⟨[default].map Endpoint.ofConfig, by simp, by decide⟩
  have hregistry : Registry.ofConfigs c.endpoints = .ok registry :=
    Registry.ofConfigs_of_ordered hsome (by decide)
  let m := Manager.fresh registry (.ofConfig c) refusing () clock fun _ => 0
  have hrun : Run m.setup (idle m.world) _ _ :=
    ((Run.nil.snoc (m := .cycle "ping") rfl).snoc (m := .probe 0 0) rfl).snoc (m := .probe 0 0) rfl
  obtain ⟨other, hother, hlaw⟩ := configured_timeouts_stay_on_clock hsome hfaultless
  obtain rfl : other = registry := Except.ok.inj (hother.symm.trans hregistry)
  obtain ⟨-, hruns⟩ := hlaw () clock fun _ => 0
  exact ⟨hsome, hfaultless, registry, _, _, hregistry, hrun, by decide, by decide, by decide,
    hruns _ _ hrun (by decide) (by decide)⟩

end Traffic

end Failover
