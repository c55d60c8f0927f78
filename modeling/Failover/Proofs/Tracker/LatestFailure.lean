import Failover.Proofs.Tracker.Expiry

/-!
# The latest failure of an endpoint

Records are kept by index and breakers by URL. When the URLs are pairwise distinct the two go
together: the latest failure of an unhealthy endpoint is the latest trip of its breaker, and nothing
has released this breaker since (`Tracker.trippedAt_of_unhealthy`). On a clock that does not go back
the breaker then excludes the endpoint for exactly one timeout (`Tracker.excluded_of_unhealthy`).
-/

namespace Failover

/-- Endpoints at different indices differ in what is pairwise distinct among all endpoints. -/
lemma Registry.ne_of_nodup {registry : Registry} {f : Endpoint → String}
    (hdistinct : (registry.endpoints.map f).Nodup) {i j : Nat} {ep endpoint : Endpoint}
    (hi : registry.get? i = some ep) (hj : registry.get? j = some endpoint) (hne : i ≠ j) :
    f ep ≠ f endpoint := by
  intro hsame
  have hlt : i < (registry.endpoints.map f).length := by
    rw [List.length_map]
    exact (List.getElem?_eq_some_iff.mp hi).1
  refine hne ((List.getElem?_inj hlt hdistinct).mp ?_)
  have hepi : registry.endpoints[i]? = some ep := hi
  have hepj : registry.endpoints[j]? = some endpoint := hj
  simp [hepi, hepj, hsame]

/-- Endpoints at different indices have different URLs if the URLs are pairwise distinct. -/
lemma Registry.url_ne_of_nodup {registry : Registry}
    (hurls : (registry.endpoints.map Endpoint.url).Nodup) {i j : Nat} {ep endpoint : Endpoint}
    (hi : registry.get? i = some ep) (hj : registry.get? j = some endpoint) (hne : i ≠ j) :
    ep.url ≠ endpoint.url := ne_of_nodup hurls hi hj hne

namespace Tracker

/-! ## The latest failure of an index -/

/-- Whether an entry is a failure at an index. -/
def Entry.failsAt (index : Nat) (e : Entry) : Bool :=
  match e.deed with
  | .failure i _ _ => i = index
  | _ => false

/-- When the latest failure at an index was. -/
def lastFailure? (index : Nat) (log : Log) : Option Reading :=
  ((log.filter (Entry.failsAt index)).getLast?).map Entry.time

/-- The last entry is the latest failure of an endpoint if it fails there. -/
lemma lastFailure?_concat (index : Nat) (log : Log) (e : Entry) :
    lastFailure? index (log ++ [e]) =
      if e.failsAt index then some e.time else lastFailure? index log := by
  unfold lastFailure?
  rw [List.filter_append]
  cases h : e.failsAt index <;> simp [h]

/-- An entry that observes nothing at an index is no failure there, and if the URLs are pairwise
distinct it leaves the breaker of the endpoint with this index alone. -/
lemma inert_elsewhere {registry : Registry} (hurls : (registry.endpoints.map Endpoint.url).Nodup)
    {index : Nat} {endpoint : Endpoint} (hget : registry.get? index = some endpoint) {e : Entry}
    (hfits : e.deed.Fits registry) (hnothing : e.observation? index = none) (t : Tracker) :
    e.failsAt index = false ∧ t.trips endpoint.url e = false ∧
      t.releases endpoint.url e = false := by
  have hother : ∀ i ep, registry.get? i = some ep → i ≠ index → ep.url ≠ endpoint.url :=
    fun _ _ hep hne => Registry.url_ne_of_nodup hurls hep hget hne
  obtain ⟨time, deed⟩ := e
  cases deed with
  | success i ep latency observer =>
    have hne : i ≠ index := by
      intro h
      simp [Entry.observation?, Entry.observed?, h] at hnothing
    cases observer <;> simp [Entry.failsAt, trips, releases, hother i ep hfits hne]
  | failure i ep observer =>
    have hne : i ≠ index := by
      intro h
      simp [Entry.observation?, Entry.observed?, h] at hnothing
    simp [Entry.failsAt, trips, releases, hother i ep hfits hne, hne]
  | judge i ep isLast => exact ⟨rfl, rfl, rfl⟩
  | inquire ep => exact ⟨rfl, rfl, rfl⟩
  | survey r => exact ⟨rfl, rfl, rfl⟩

/-- A new tracker has the initial record everywhere. -/
lemma recordAt_new (count : Nat) (threshold : UInt32) (timeout : Duration) (index : Nat) :
    (new count threshold timeout).recordAt index = .initial := by
  unfold recordAt
  by_cases h : index < count
  · rw [record?_new threshold timeout h]
    rfl
  · simp [record?, new, h]

/-- After any log, a tracker that was new has a record of every index in range. -/
lemma lt_length_records_replay_new {count index : Nat} (threshold : UInt32) (timeout : Duration)
    (h : index < count) (log : Log) :
    index < ((new count threshold timeout).replay log).records.length := by
  obtain ⟨hrecord, -⟩ := reflects_replay_new threshold timeout h log
  exact (List.getElem?_eq_some_iff.mp hrecord).1

/-- An entry that observes nothing of an endpoint leaves its record. -/
lemma recordAt_after_of_observation?_eq_none {t : Tracker} {e : Entry} {index : Nat}
    (h : e.observation? index = none) : (t.after e).recordAt index = t.recordAt index := by
  rw [recordAt, record?_after, h]
  simp [recordAt]

/-- An endpoint that is unhealthy after an observation of it has just failed, and tripped its
breaker. -/
lemma trips_of_unhealthy {registry : Registry} {index : Nat} {endpoint : Endpoint}
    (hget : registry.get? index = some endpoint) {t : Tracker} {e : Entry} {o : Observation}
    (hfits : e.deed.Fits registry) (hobserved : e.observation? index = some o)
    (hunhealthy : ((t.after e).recordAt index).status = .unhealthy) :
    e.failsAt index = true ∧ t.trips endpoint.url e = true ∧
      ((t.after e).recordAt index).lastFailure = some e.time.wall := by
  have hrecord : ∃ r, t.record? index = some r := by
    cases hr : t.record? index with
    | none =>
      rw [recordAt, record?_after, hr] at hunhealthy
      cases hunhealthy
    | some r => exact ⟨r, rfl⟩
  obtain ⟨r, hr⟩ := hrecord
  have hlt : index < t.records.length := (List.getElem?_eq_some_iff.mp hr).1
  obtain ⟨time, deed⟩ := e
  cases deed with
  | success i ep latency observer =>
    have hi : i = index := by
      by_contra hne
      simp [Entry.observation?, Entry.observed?, hne] at hobserved
    subst hi
    rw [recordAt, record?_after, hr] at hunhealthy
    simp [Entry.observation?, Entry.observed?, HealthRecord.observe] at hunhealthy
  | failure i ep observer =>
    have hi : i = index := by
      by_contra hne
      simp [Entry.observation?, Entry.observed?, hne] at hobserved
    subst hi
    obtain rfl := Option.some.inj (hget.symm.trans hfits)
    refine ⟨by simp [Entry.failsAt], by simp [trips, hlt, hunhealthy], ?_⟩
    rw [recordAt_after_failure hr]
    rfl
  | judge i ep isLast => cases hobserved
  | inquire ep => cases hobserved
  | survey r => cases hobserved

/-- After a log over endpoints with distinct URLs, the latest failure of an unhealthy endpoint is
the latest trip of its breaker, which was not released since. -/
lemma trippedAt_of_unhealthy {registry : Registry}
    (hurls : (registry.endpoints.map Endpoint.url).Nodup) {index : Nat} {endpoint : Endpoint}
    (hget : registry.get? index = some endpoint) (count : Nat) (threshold : UInt32)
    (timeout : Duration) {log : Log} (hfits : ∀ e ∈ log, e.deed.Fits registry)
    (hunhealthy :
      (((new count threshold timeout).replay log).recordAt index).status = .unhealthy) :
    ∃ time, lastFailure? index log = some time ∧
      (((new count threshold timeout).replay log).recordAt index).lastFailure = some time.wall ∧
      (new count threshold timeout).TrippedAt log endpoint.url time.instant := by
  induction log using List.reverseRecOn with
  | nil =>
    rw [replay_nil, recordAt_new] at hunhealthy
    cases hunhealthy
  | append_singleton log e ih =>
    have hfit : e.deed.Fits registry := hfits e (by simp)
    rw [replay_concat] at hunhealthy ⊢
    cases hobserved : e.observation? index with
    | some o =>
      obtain ⟨hfails, htrips, hwall⟩ := trips_of_unhealthy hget hfit hobserved hunhealthy
      refine ⟨e.time, ?_, hwall, trippedAt_concat.mpr (Or.inl ⟨htrips, rfl⟩)⟩
      rw [lastFailure?_concat, hfails, if_pos rfl]
    | none =>
      rw [recordAt_after_of_observation?_eq_none hobserved] at hunhealthy ⊢
      obtain ⟨hfails, hkeep, hstay⟩ := inert_elsewhere hurls hget hfit hobserved
        ((new count threshold timeout).replay log)
      obtain ⟨time, hlast, hwall, htripped⟩ :=
        ih (fun f hf => hfits f (List.mem_append_left _ hf)) hunhealthy
      refine ⟨time, ?_, hwall, trippedAt_concat.mpr (Or.inr ⟨hkeep, hstay, htripped⟩)⟩
      rw [lastFailure?_concat, hfails, hlast]
      rfl

/-- An endpoint that is unhealthy stays so at its next failure. -/
lemma unhealthy_after_failure (count : Nat) (threshold : UInt32) (timeout : Duration) (log : Log)
    {index : Nat}
    (hunhealthy :
      (((new count threshold timeout).replay log).recordAt index).status = .unhealthy)
    (time : Reading) (endpoint : Endpoint) (observer : Observer) :
    ((((new count threshold timeout).replay log).after
      ⟨time, .failure index endpoint observer⟩).recordAt index).status = .unhealthy := by
  have hlt : index < count := by
    by_contra hnot
    have hnone : ((new count threshold timeout).replay log).record? index = none := by
      rw [record?_replay]
      simp [record?, new, hnot]
    rw [recordAt, hnone] at hunhealthy
    cases hunhealthy
  obtain ⟨hrecord, hreflects⟩ := reflects_replay_new threshold timeout hlt log
  rw [recordAt_of_record? hrecord, hreflects.unhealthy_iff] at hunhealthy
  have hcap := hreflects.consecutiveFailures
  have hthreshold : (new count threshold timeout).threshold = max threshold.toNat 1 := rfl
  rw [recordAt_after_failure hrecord, replay_threshold, hthreshold, HealthRecord.observe_failure]
  show HealthRecord.failedStatus _ (HealthRecord.nextFailures _) = .unhealthy
  rw [HealthRecord.failedStatus_eq_unhealthy_iff]
  unfold HealthRecord.nextFailures HealthRecord.failureCap
  omega

/-- After a log over endpoints with distinct URLs, an unhealthy endpoint is excluded by its breaker
exactly for one timeout after its latest failure. -/
lemma excluded_of_unhealthy {registry : Registry}
    (hurls : (registry.endpoints.map Endpoint.url).Nodup) {index : Nat} {endpoint : Endpoint}
    (hget : registry.get? index = some endpoint) (count : Nat) (threshold : UInt32)
    (timeout : Duration) {log : Log} (hfits : ∀ e ∈ log, e.deed.Fits registry)
    (hchron : Chronological log) (hfaultless : (new count threshold timeout).Faultless log)
    (hunhealthy :
      (((new count threshold timeout).replay log).recordAt index).status = .unhealthy) :
    ∃ time, lastFailure? index log = some time ∧
      (((new count threshold timeout).replay log).recordAt index).lastFailure = some time.wall ∧
      ∀ now : Instant, (∀ e ∈ log, e.time.instant.nanos ≤ now.nanos) → ∀ isLast,
        (((new count threshold timeout).replay log).eligibility now index endpoint isLast).1 =
            .breakerOpen ↔
          now.nanos < time.instant.nanos + timeout.nanos := by
  obtain ⟨time, hlast, hwall, htripped⟩ :=
    trippedAt_of_unhealthy hurls hget count threshold timeout hfits hunhealthy
  refine ⟨time, hlast, hwall, ?_⟩
  intro now hnow isLast
  rw [eligibility_replay_eq_breakerOpen_iff (new_until? ..) hchron hnow hfaultless]
  exact htripped.heldOpen_iff

end Tracker

end Failover
