import Failover.Proofs.Traffic.Metrics

/-!
# The counter of opened breakers

A failure that leaves the record of its endpoint unhealthy trips the breaker, whether or not it is
open, and each such failure is counted. Probes go on while a breaker is open, so the counter can be
ahead of the openings, which are the moves with a closed breaker before them and an open one after
them. Every opening is a trip, and a trip that is no opening has found the breaker open or has no
timeout to open it for (`Beat.opens_iff`). `Traffic.TripCount` sums this up over a run.
-/

namespace Failover

variable {σ : Type} {setup : Setup σ} {endpoint : Endpoint}

/-! ## Trips and openings -/

/-- Whether the breaker of an endpoint is open. -/
def Traffic.isOpen (setup : Setup σ) (endpoint : Endpoint) (s : Traffic σ) : Bool :=
  (s.world.tracker.isOpen (s.reading setup).instant endpoint).1

namespace Beat

/-- Whether a move takes in a failure that leaves the record of an endpoint unhealthy. -/
def trips (setup : Setup σ) (endpoint : Endpoint) (b : Beat σ) : Bool :=
  (b.log setup).any (b.before.world.tracker.trips endpoint.url)

/-- Whether a move opens the breaker of an endpoint, which was not open before. -/
def opens (setup : Setup σ) (endpoint : Endpoint) (b : Beat σ) : Bool :=
  !b.before.isOpen setup endpoint && b.after.isOpen setup endpoint

end Beat

lemma Traffic.isOpen_eq (s : Traffic σ) :
    s.isOpen setup endpoint =
      (s.world.tracker.breakers.until? endpoint.url).any (s.reading setup).instant.before :=
  Tracker.isOpen_fst ..

/-- A step of a call asks at most one thing of the tracker. -/
lemma Call.length_deeds_le (w : World σ) (c : Call) : (c.deeds setup w).length ≤ 1 := by
  unfold deeds
  split
  · split <;> simp
  · split
    · simp
    · split <;> simp
    · simp
  · simp

/-- A step of a probe asks at most one thing of the tracker. -/
lemma Cycle.length_deeds_le (w : World σ) (c : Cycle) (index : Nat) :
    (c.deeds setup w index).length ≤ 1 := by
  unfold deeds
  split
  · simp
  · split
    · split
      · simp
      · split <;> simp
    · simp

/-- A move asks at most one thing of the tracker. -/
lemma Beat.deeds_eq_nil_or (setup : Setup σ) (b : Beat σ) :
    b.deeds setup = [] ∨ ∃ deed, b.deeds setup = [deed] := by
  have hlength : (b.deeds setup).length ≤ 1 := by
    obtain ⟨before, move, after, notes⟩ := b
    cases move with
    | advance id =>
      show (((before.calls[id]?).map (Call.deeds setup before.world)).getD []).length ≤ 1
      cases before.calls[id]? with
      | none => simp
      | some c => exact c.length_deeds_le _
    | probe id index =>
      show (((before.cycles[id]?).map fun c => c.deeds setup before.world index).getD []).length ≤ 1
      cases before.cycles[id]? with
      | none => simp
      | some c => exact c.length_deeds_le _ _
    | _ => simp [deeds]
  cases hdeeds : b.deeds setup with
  | nil => exact Or.inl rfl
  | cons deed rest =>
    rw [hdeeds, List.length_cons] at hlength
    exact Or.inr ⟨deed, by rw [List.eq_nil_of_length_eq_zero (by omega : rest.length = 0)]⟩

/-- What a move asks of the tracker is asked at the time of the move. -/
lemma Beat.log_eq_nil_or (setup : Setup σ) (b : Beat σ) :
    (b.deeds setup = [] ∧ b.log setup = []) ∨
      ∃ deed, b.deeds setup = [deed] ∧ b.log setup = [⟨b.before.reading setup, deed⟩] := by
  unfold log
  rcases b.deeds_eq_nil_or setup with hnone | ⟨deed, hone⟩
  · left
    rw [hnone]
    exact ⟨rfl, rfl⟩
  · right
    refine ⟨deed, hone, ?_⟩
    rw [hone]
    rfl

/-! ## One move -/

/-- An entry that lies ahead of a time lay ahead of every earlier time. -/
lemma Instant.before_of_le {now later u : Instant} (hle : now.nanos ≤ later.nanos)
    (h : later.before u = true) : now.before u = true := by
  unfold before at h ⊢
  simp only [decide_eq_true_eq] at h ⊢
  omega

/-- Without a trip a breaker has no entry that it did not have before. -/
lemma Tracker.until?_of_not_trips {t : Tracker} {key : String} {e : Entry} {u : Instant}
    (htrips : t.trips key e = false) (hu : (t.after e).breakers.until? key = some u) :
    t.breakers.until? key = some u := by
  cases hreleases : t.releases key e with
  | true =>
    rw [until?_after_of_releases hreleases] at hu
    cases hu
  | false =>
    rw [until?_after_of_neither htrips hreleases] at hu
    split at hu
    · exact (Option.filter_eq_some_iff.mp hu).1
    · exact hu

namespace Beat

variable {b : Beat σ} (hnext : b.before.next? setup b.move = some (b.after, b.notes))

include hnext

/-- A move with a trip takes no time, and the breaker is open after it if it has a timeout. -/
lemma isOpen_of_trips (hfaultless : b.before.world.tracker.Faultless (b.log setup))
    (htrips : b.trips setup endpoint = true) :
    b.after.isOpen setup endpoint =
      decide (0 < b.before.world.tracker.breakers.timeout.nanos) := by
  have htracker : b.after.world.tracker = b.before.world.tracker.replay (b.log setup) :=
    Traffic.tracker_of_next? hnext
  rw [trips] at htrips
  rcases b.log_eq_nil_or setup with ⟨-, hnone⟩ | ⟨deed, hdeed, hone⟩
  · rw [hnone] at htrips
    cases htrips
  · have hsame : b.after.world.now = b.before.world.now := by
      refine Traffic.now_eq_of_next? hnext ?_
      intro millis hmove
      rw [deeds, hmove] at hdeed
      cases hdeed
    have hreading : b.after.reading setup = b.before.reading setup := by
      rw [Traffic.reading, World.reading, hsame]
      rfl
    rw [hone] at htrips htracker hfaultless
    have htrip :
        b.before.world.tracker.trips endpoint.url ⟨b.before.reading setup, deed⟩ = true := by
      simpa using htrips
    rw [Traffic.isOpen_eq, hreading, htracker, Tracker.replay_cons, Tracker.replay_nil,
      Tracker.until?_after_of_trips htrip hfaultless.1, Option.any_some, Instant.before]
    exact decide_eq_decide.mpr Nat.lt_add_right_iff_pos

/-- Without a trip a breaker is open after a move only if it was open before. -/
lemma isOpen_of_not_trips (htrips : b.trips setup endpoint = false)
    (hopen : b.after.isOpen setup endpoint = true) : b.before.isOpen setup endpoint = true := by
  have htracker : b.after.world.tracker = b.before.world.tracker.replay (b.log setup) :=
    Traffic.tracker_of_next? hnext
  have hmono := Traffic.reading_mono setup (Traffic.now_of_next? hnext)
  rw [Traffic.isOpen_eq] at hopen ⊢
  rw [trips] at htrips
  obtain ⟨u, hu, hbefore⟩ := (Option.any_eq_true _ _).mp hopen
  have hentry : b.before.world.tracker.breakers.until? endpoint.url = some u := by
    rw [htracker] at hu
    rcases b.log_eq_nil_or setup with ⟨-, hnone⟩ | ⟨deed, -, hone⟩
    · rw [hnone, Tracker.replay_nil] at hu
      exact hu
    · rw [hone] at htrips hu
      rw [Tracker.replay_cons, Tracker.replay_nil] at hu
      exact Tracker.until?_of_not_trips (by simpa using htrips) hu
  rw [hentry, Option.any_some]
  exact Instant.before_of_le hmono hbefore

/-- A move opens a breaker exactly if it trips one that is not open and has a timeout. -/
lemma opens_eq (hfaultless : b.before.world.tracker.Faultless (b.log setup)) :
    b.opens setup endpoint =
      (b.trips setup endpoint && !b.before.isOpen setup endpoint &&
        decide (0 < b.before.world.tracker.breakers.timeout.nanos)) := by
  unfold opens
  cases htrips : b.trips setup endpoint with
  | true => rw [isOpen_of_trips hnext hfaultless htrips, Bool.true_and]
  | false =>
    have hkept := isOpen_of_not_trips hnext htrips
    cases hopen : b.before.isOpen setup endpoint with
    | true => rfl
    | false =>
      cases hopen' : b.after.isOpen setup endpoint with
      | true =>
        rw [hkept hopen'] at hopen
        cases hopen
      | false => rfl

end Beat

/-- What an entry adds to the counter of a name that only one endpoint has is one for a trip. -/
lemma Tracker.count_measured {registry : Registry}
    (hurls : (registry.endpoints.map Endpoint.url).Nodup)
    (hnames : (registry.endpoints.map Endpoint.displayName).Nodup) {index : Nat}
    (hget : registry.get? index = some endpoint) {t : Tracker}
    (hrecords : ∀ i < registry.size, i < t.records.length) {e : Entry}
    (hfits : e.deed.Fits registry) :
    (e.deed.measured (t.after e)).count (.breakerOpened endpoint.displayName) =
      if t.trips endpoint.url e then 1 else 0 := by
  obtain ⟨time, deed⟩ := e
  cases deed with
  | failure i ep observer =>
    have hlt : i < t.records.length := hrecords i (List.getElem?_eq_some_iff.mp hfits).1
    let next := t.after ⟨time, .failure i ep observer⟩
    simp only [Deed.measured, trips, hlt]
    by_cases hi : i = index
    · subst hi
      obtain rfl : ep = endpoint := Option.some.inj (hfits.symm.trans hget)
      by_cases hstatus : (next.recordAt i).status = .unhealthy <;> simp [next, hstatus]
    · have hname := Registry.ne_of_nodup hnames hfits hget hi
      have hurl := Registry.ne_of_nodup hurls hfits hget hi
      by_cases hstatus : (next.recordAt i).status = .unhealthy <;>
        simp [next, hstatus, hname, hurl]
  | success i ep latency observer => simp [Deed.measured, trips]
  | judge i ep isLast => rfl
  | inquire ep => rfl
  | survey r => rfl

namespace Traffic

variable {start s : Traffic σ} {beats : List (Beat σ)} {b : Beat σ}

/-! ## Runs -/

/-- Each beat of a run is a possible move, which does not end in a fault if the log does not. -/
lemma Run.of_mem (hrun : Run setup start beats s)
    (hfaultless : start.world.tracker.Faultless (log setup beats)) (hb : b ∈ beats) :
    ∃ before, Run setup start before b.before ∧
      b.before.next? setup b.move = some (b.after, b.notes) ∧
      b.before.world.tracker.Faultless (b.log setup) := by
  obtain ⟨before, later, rfl⟩ := List.append_of_mem hb
  obtain ⟨hbefore, hnext, -⟩ := hrun.cut
  rw [List.append_cons] at hfaultless
  have hpast := faultless_log_of_append hfaultless
  rw [log_concat] at hpast
  refine ⟨before, hbefore, hnext, ?_⟩
  rw [hbefore.tracker]
  exact (Tracker.faultless_append.mp hpast).2

section Counter

variable (hrun : Run setup start beats s)
  (hfaultless : start.world.tracker.Faultless (log setup beats))

include hrun hfaultless

/-- What a move adds to the counter of a name that only one endpoint has is one for a trip. -/
lemma Run.count_breakerOpened_of_mem {threshold : UInt32} {timeout : Duration}
    (hfresh : start.world.tracker = .new setup.registry.size threshold timeout)
    (hurls : (setup.registry.endpoints.map Endpoint.url).Nodup)
    (hnames : (setup.registry.endpoints.map Endpoint.displayName).Nodup) {index : Nat}
    (hget : setup.registry.get? index = some endpoint) (hb : b ∈ beats) :
    b.notes.measurements.count (.breakerOpened endpoint.displayName) =
      if b.trips setup endpoint then 1 else 0 := by
  obtain ⟨before, hbefore, hnext, hlast⟩ := hrun.of_mem hfaultless hb
  have hrecords : ∀ i < setup.registry.size, i < b.before.world.tracker.records.length := by
    intro i hi
    rw [hbefore.tracker, hfresh]
    exact Tracker.lt_length_records_replay_new _ _ hi _
  have htracker := tracker_of_next? hnext
  have hfits : ∀ e ∈ b.log setup, e.deed.Fits setup.registry :=
    fun e he => fits_log setup [b] e (by simpa [log] using he)
  rw [← List.count_filter (p := Measurement.isOfTracker) rfl,
    filter_isOfTracker_of_next? hnext hrecords hlast, htracker]
  unfold Beat.trips
  rcases b.log_eq_nil_or setup with ⟨hnone, hlog⟩ | ⟨deed, hone, hlog⟩
  · rw [hnone, hlog]
    rfl
  · rw [hone, hlog]
    rw [hlog] at hfits
    have hcount := Tracker.count_measured hurls hnames hget hrecords
      (hfits ⟨b.before.reading setup, deed⟩ (List.mem_singleton_self _))
    simpa using hcount

/-- The counter of a name that only one endpoint has shows how often this endpoint was tripped. -/
lemma Run.value?_breakerOpened {threshold : UInt32} {timeout : Duration}
    (hfresh : start.world.tracker = .new setup.registry.size threshold timeout)
    (hurls : (setup.registry.endpoints.map Endpoint.url).Nodup)
    (hnames : (setup.registry.endpoints.map Endpoint.displayName).Nodup) (index : Nat)
    (endpoint : Endpoint) (hget : setup.registry.get? index = some endpoint) :
    (metrics beats).value? (Measurement.breakerOpened endpoint.displayName).series =
      Reckoning.counted (beats.countP (Beat.trips setup endpoint)) := by
  have hcount : ∀ some : List (Beat σ), (∀ b ∈ some, b ∈ beats) →
      (some.flatMap fun b => b.notes.measurements).count (.breakerOpened endpoint.displayName) =
        some.countP (Beat.trips setup endpoint) := by
    intro some hsome
    induction some with
    | nil => rfl
    | cons b rest ih =>
      obtain ⟨hb, hrest⟩ := List.forall_mem_cons.mp hsome
      rw [List.flatMap_cons, List.count_append, List.countP_cons, ih hrest, Nat.add_comm,
        hrun.count_breakerOpened_of_mem hfaultless hfresh hurls hnames hget hb]
  rw [metrics, Metrics.value?_ofMeasurements_of_counts rfl, measurements_notes,
    hcount beats fun _ hb => hb]

/-- A beat opens a breaker exactly if it trips one that is not open and has a timeout. -/
lemma Run.opens_of_mem (hb : b ∈ beats) :
    b.opens setup endpoint = (b.trips setup endpoint && !b.before.isOpen setup endpoint &&
      decide (0 < start.world.tracker.breakers.timeout.nanos)) := by
  obtain ⟨before, hbefore, hnext, hlast⟩ := hrun.of_mem hfaultless hb
  have htimeout :
      b.before.world.tracker.breakers.timeout = start.world.tracker.breakers.timeout := by
    rw [hbefore.tracker, Tracker.replay_timeout]
  rw [← htimeout]
  exact Beat.opens_eq hnext hlast

/-- If the breaker has a timeout, its trips are its openings and the failures that found it open. -/
lemma Run.countP_trips (htimeout : 0 < start.world.tracker.breakers.timeout.nanos) :
    beats.countP (Beat.trips setup endpoint) =
      beats.countP (Beat.opens setup endpoint) +
        beats.countP fun b => b.trips setup endpoint && b.before.isOpen setup endpoint := by
  have hopens : beats.countP (Beat.opens setup endpoint) =
      beats.countP fun b => b.trips setup endpoint && !b.before.isOpen setup endpoint := by
    refine List.countP_congr ?_
    intro b hb
    rw [hrun.opens_of_mem hfaultless hb]
    simp [htimeout]
  rw [hopens, List.countP_eq_countP_filter_add beats (Beat.trips setup endpoint)
    (fun b => b.before.isOpen setup endpoint), List.countP_filter, List.countP_filter,
    Nat.add_comm]

end Counter

/-- What the counter of opened breakers shows for an endpoint after the moves of a run. -/
structure TripCount (setup : Setup σ) (timeout : Duration) (beats : List (Beat σ))
    (endpoint : Endpoint) : Prop where
  /-- It shows every failure that left the record unhealthy. -/
  counter : (metrics beats).value? (Measurement.breakerOpened endpoint.displayName).series =
    Reckoning.counted (beats.countP (Beat.trips setup endpoint))
  /-- The breaker opens with such a failure if it is not open yet and has a timeout. -/
  opens : ∀ b ∈ beats, b.opens setup endpoint =
    (b.trips setup endpoint && !b.before.isOpen setup endpoint && decide (0 < timeout.nanos))
  /-- So with a timeout the counter is ahead of the openings by the failures that found the breaker
  open. -/
  ahead : 0 < timeout.nanos → beats.countP (Beat.trips setup endpoint) =
    beats.countP (Beat.opens setup endpoint) +
      beats.countP fun b => b.trips setup endpoint && b.before.isOpen setup endpoint

/-- **The counter of opened breakers counts failures, not openings.** Over endpoints with pairwise
distinct URLs and names, whatever calls, probe cycles and reports went on at any pace: the counter
of an endpoint shows how often a failure left its record unhealthy. Those are the openings of its
breaker and the failures that found it open already. -/
theorem breaker_counter_counts_failures {configs : List EndpointConfig} {settings : Settings}
    {transport : Rpc.Transport σ} {wire : σ} {clock : Clock} {draw : Nat → Nat} {m : Manager σ}
    {built : Journal}
    (hbuild : Manager.build configs settings transport wire clock draw = .ok (m, built))
    (hurls : (m.setup.registry.endpoints.map Endpoint.url).Nodup)
    (hnames : (m.setup.registry.endpoints.map Endpoint.displayName).Nodup)
    (hrun : Run m.setup (idle m.world) beats s)
    (hfaultless : m.world.tracker.Faultless (log m.setup beats)) :
    ∀ index endpoint, m.setup.registry.get? index = some endpoint →
      TripCount m.setup settings.breakerTimeout beats endpoint := by
  obtain ⟨-, registry, -, rfl, -⟩ := Manager.build_eq_ok_iff.mp hbuild
  intro index endpoint hget
  exact {
    counter := hrun.value?_breakerOpened hfaultless rfl hurls hnames index endpoint hget
    opens := fun b hb => hrun.opens_of_mem hfaultless hb
    ahead := hrun.countP_trips hfaultless }

/-- One endpoint, a threshold of one and three probes that fail, the last of them when the minute of
the breaker is over: three failures are counted for two openings. -/
theorem breaker_counter_counts_failures_of_three_probes :
    let settings := { Settings.standard with healthChecksEnabled := false, breakerThreshold := 1 }
    let refusing : Rpc.Transport Unit := ⟨fun _ _ _ => (⟨0, .result (.error .emptyResult)⟩, ())⟩
    ∃ m built beats s endpoint,
      Manager.build [.ofUrl "http://a"] settings refusing () .standard (fun _ => 0) =
          .ok (m, built) ∧
        (m.setup.registry.endpoints.map Endpoint.url).Nodup ∧
        (m.setup.registry.endpoints.map Endpoint.displayName).Nodup ∧
        Run m.setup (idle m.world) beats s ∧ m.world.tracker.Faultless (log m.setup beats) ∧
        m.setup.registry.get? 0 = some endpoint ∧
        beats.countP (Beat.opens m.setup endpoint) = 2 ∧
        (metrics beats).value? (Measurement.breakerOpened endpoint.displayName).series =
          some (.counter 3) := by
  intro settings refusing
  have hregistry : Registry.ofConfigs [.ofUrl "http://a"] = .ok _ :=
    Registry.ofConfigs_of_ordered (List.cons_ne_nil _ _) (by decide)
  let m := Manager.fresh ⟨[.ofUrl "http://a"].map Endpoint.ofConfig, by simp, by decide⟩ settings
    refusing () .standard fun _ => 0
  have hbuild : Manager.build [.ofUrl "http://a"] settings refusing () .standard (fun _ => 0) =
      .ok (m, _) := Manager.build_eq_ok_iff.mpr ⟨rfl, _, hregistry, rfl, rfl⟩
  let past := play m.setup ([], idle m.world)
    [.cycle "ping", .probe 0 0, .probe 0 0, .cycle "ping", .probe 1 0, .probe 1 0, .elapse 60000,
      .cycle "ping", .probe 2 0, .probe 2 0]
  have hrun : Run m.setup (idle m.world) past.1 past.2 := Run.nil.play _
  have hurls : (m.setup.registry.endpoints.map Endpoint.url).Nodup := by decide
  have hnames : (m.setup.registry.endpoints.map Endpoint.displayName).Nodup := by decide
  have hcount := breaker_counter_counts_failures hbuild hurls hnames hrun (by decide) 0 _ rfl
  refine ⟨m, _, past.1, past.2, _, hbuild, hurls, hnames, hrun, by decide, rfl, by decide, ?_⟩
  exact hcount.counter.trans (congrArg Reckoning.counted (by decide : _ = 3))

/-- The counter is not the number of openings: two probes that fail one after the other are counted
twice, and the second one finds the breaker open. -/
theorem breaker_counter_ahead_of_openings :
    let settings := { Settings.standard with healthChecksEnabled := false, breakerThreshold := 1 }
    let refusing : Rpc.Transport Unit := ⟨fun _ _ _ => (⟨0, .result (.error .emptyResult)⟩, ())⟩
    ∃ m built beats s endpoint,
      Manager.build [.ofUrl "http://a"] settings refusing () .standard (fun _ => 0) =
          .ok (m, built) ∧
        (m.setup.registry.endpoints.map Endpoint.url).Nodup ∧
        (m.setup.registry.endpoints.map Endpoint.displayName).Nodup ∧
        Run m.setup (idle m.world) beats s ∧ m.world.tracker.Faultless (log m.setup beats) ∧
        m.setup.registry.get? 0 = some endpoint ∧
        beats.countP (Beat.opens m.setup endpoint) = 1 ∧
        (metrics beats).value? (Measurement.breakerOpened endpoint.displayName).series =
          some (.counter 2) := by
  intro settings refusing
  have hregistry : Registry.ofConfigs [.ofUrl "http://a"] = .ok _ :=
    Registry.ofConfigs_of_ordered (List.cons_ne_nil _ _) (by decide)
  let m := Manager.fresh ⟨[.ofUrl "http://a"].map Endpoint.ofConfig, by simp, by decide⟩ settings
    refusing () .standard fun _ => 0
  have hbuild : Manager.build [.ofUrl "http://a"] settings refusing () .standard (fun _ => 0) =
      .ok (m, _) := Manager.build_eq_ok_iff.mpr ⟨rfl, _, hregistry, rfl, rfl⟩
  let past := play m.setup ([], idle m.world)
    [.cycle "getblockcount", .probe 0 0, .probe 0 0, .cycle "getblockcount", .probe 1 0, .probe 1 0]
  have hrun : Run m.setup (idle m.world) past.1 past.2 := Run.nil.play _
  have hurls : (m.setup.registry.endpoints.map Endpoint.url).Nodup := by decide
  have hnames : (m.setup.registry.endpoints.map Endpoint.displayName).Nodup := by decide
  have hcounter := hrun.value?_breakerOpened (by decide) rfl hurls hnames 0 _ rfl
  refine ⟨m, _, past.1, past.2, _, hbuild, hurls, hnames, hrun, by decide, rfl, by decide, ?_⟩
  exact hcounter.trans (congrArg Reckoning.counted (by decide : _ = 2))

end Traffic

end Failover
