import Failover.Proofs.Tracker.LatestFailure
import Failover.Proofs.Traffic.Log

/-!
# Isolation of endpoints

What is observed of one endpoint shows nowhere else as long as no other endpoint has its URL. The
records are kept by index, so those of all other indices stay as they are in any case. The breakers
are kept by URL, so the endpoints of one URL share one breaker: what is observed of one of them
opens and closes it for all.
-/

namespace Failover

namespace Tracker

/-- The endpoint with an index was observed, by whomever and with whatever outcome. -/
def Deed.Observes (index : Nat) (endpoint : Endpoint) : Deed → Prop
  | .success i ep _ _ => i = index ∧ ep = endpoint
  | .failure i ep _ => i = index ∧ ep = endpoint
  | _ => False

/-! ## What an observation leaves alone -/

variable {t : Tracker} {e : Entry} {index other : Nat} {endpoint ep : Endpoint}

/-- An observation leaves the records of other indices alone. -/
lemma record?_after_of_observes (h : e.deed.Observes index endpoint) (hne : other ≠ index) :
    (t.after e).record? other = t.record? other := by
  have hnothing : e.observation? other = none := by
    obtain ⟨time, deed⟩ := e
    cases deed with
    | success i ep latency observer =>
      obtain ⟨rfl, -⟩ := h
      simp [Entry.observation?, Entry.observed?, Ne.symm hne]
    | failure i ep observer =>
      obtain ⟨rfl, -⟩ := h
      simp [Entry.observation?, Entry.observed?, Ne.symm hne]
    | judge i ep isLast => cases h
    | inquire ep => cases h
    | survey registry => cases h
  rw [record?_after, hnothing]
  simp

/-- An observation leaves the breakers of other URLs alone. -/
lemma until?_after_of_observes (h : e.deed.Observes index endpoint) {key : String}
    (hne : key ≠ endpoint.url) :
    (t.after e).breakers.until? key = t.breakers.until? key := by
  obtain ⟨time, deed⟩ := e
  cases deed with
  | success i ep latency observer =>
    obtain ⟨rfl, rfl⟩ := h
    refine until?_after_of_neither rfl ?_
    cases observer with
    | call => simp [releases, Ne.symm hne]
    | probe => rfl
  | failure i ep observer =>
    obtain ⟨rfl, rfl⟩ := h
    exact until?_after_of_neither (by simp [trips, Ne.symm hne]) rfl
  | judge i ep isLast => cases h
  | inquire ep => cases h
  | survey registry => cases h

/-- An endpoint is found and judged after an observation of an endpoint with another index and
another URL as it was before. -/
lemma unaffected_of_observes (h : e.deed.Observes index endpoint) (hindex : other ≠ index)
    (hurl : ep.url ≠ endpoint.url) (now : Instant) (isLast : Bool) :
    ((t.after e).isOpen now ep).1 = (t.isOpen now ep).1 ∧
      ((t.after e).eligibility now other ep isLast).1 =
        (t.eligibility now other ep isLast).1 := by
  have hopen : ((t.after e).isOpen now ep).1 = (t.isOpen now ep).1 := by
    rw [isOpen_fst, isOpen_fst, until?_after_of_observes h hurl]
  refine ⟨hopen, ?_⟩
  rw [eligibility_fst, eligibility_fst, hopen, recordAt, recordAt,
    record?_after_of_observes h hindex]

/-- A failure that leaves its endpoint unhealthy, and takes no fault, excludes the endpoints of its
URL for one timeout. -/
lemma breakerOpen_iff_after_failure (hurl : ep.url = endpoint.url)
    (hdeed : ∃ observer, e.deed = .failure index endpoint observer)
    (hlt : index < t.records.length)
    (hunhealthy : ((t.after e).recordAt index).status = .unhealthy) (hfault : t.fault? e = none)
    (now : Instant) (isLast : Bool) :
    ((t.after e).eligibility now other ep isLast).1 = .breakerOpen ↔
      now.nanos < e.time.instant.nanos + t.breakers.timeout.nanos := by
  have htrips : t.trips ep.url e = true := by
    obtain ⟨time, deed⟩ := e
    obtain ⟨observer, rfl⟩ := hdeed
    simp [trips, hurl, hlt, hunhealthy]
  rw [eligibility_fst, Eligibility.judge_eq_breakerOpen_iff, isOpen_fst,
    until?_after_of_trips htrips hfault]
  simp [Instant.before]

/-- A call success closes the breaker of the endpoints of its URL. -/
lemma not_breakerOpen_after_success (hurl : ep.url = endpoint.url)
    (hdeed : ∃ latency, e.deed = .success index endpoint latency .call)
    (hlt : index < t.records.length) (now : Instant) (isLast : Bool) :
    ((t.after e).eligibility now other ep isLast).1 ≠ .breakerOpen := by
  have hreleases : t.releases ep.url e = true := by
    obtain ⟨time, deed⟩ := e
    obtain ⟨latency, rfl⟩ := hdeed
    simp [releases, hurl, hlt]
  rw [ne_eq, eligibility_fst, Eligibility.judge_eq_breakerOpen_iff, isOpen_fst,
    until?_after_of_releases hreleases]
  simp

end Tracker

namespace Traffic

open Tracker

variable {σ : Type} {s : Traffic σ} {beats : List (Beat σ)}

/-! ## Observations in a run -/

/-- **Observations stay with their URL.** At any moment of any traffic, an observation of an
endpoint leaves the records of all other indices alone, and an endpoint with another URL is found
and judged after it as it was before. What endpoints of one URL share is the breaker: a failure that
makes one of them unhealthy excludes them all, and a call success of one of them lets them all in
again. -/
theorem observation_stays_with_its_url {configs : List EndpointConfig} {settings : Settings}
    {transport : Rpc.Transport σ} {wire : σ} {clock : Clock} {draw : Nat → Nat} {m : Manager σ}
    {built : Journal}
    (hbuild : Manager.build configs settings transport wire clock draw = .ok (m, built))
    (hrun : Run m.setup (idle m.world) beats s) {index : Nat} {endpoint : Endpoint}
    (hget : m.setup.registry.get? index = some endpoint) {e : Entry}
    (hobserves : e.deed.Observes index endpoint) :
    let tracker := s.world.tracker
    let after := tracker.after e
    (∀ other, other ≠ index → after.record? other = tracker.record? other) ∧
    (∀ other ep, m.setup.registry.get? other = some ep → ep.url ≠ endpoint.url → ∀ now isLast,
      (after.isOpen now ep).1 = (tracker.isOpen now ep).1 ∧
        (after.eligibility now other ep isLast).1 = (tracker.eligibility now other ep isLast).1) ∧
    (∀ other ep, m.setup.registry.get? other = some ep → ep.url = endpoint.url → ∀ now isLast,
      (∀ observer, e.deed = .failure index endpoint observer →
        (after.recordAt index).status = .unhealthy → tracker.fault? e = none →
        ((after.eligibility now other ep isLast).1 = .breakerOpen ↔
          now.nanos < e.time.instant.nanos + settings.breakerTimeout.nanos)) ∧
      (∀ latency, e.deed = .success index endpoint latency .call →
        (after.eligibility now other ep isLast).1 ≠ .breakerOpen)) := by
  intro tracker after
  obtain ⟨hlt, htimeout⟩ : index < tracker.records.length ∧
      tracker.breakers.timeout = settings.breakerTimeout := by
    have hend : tracker = m.world.tracker.replay (log m.setup beats) := hrun.tracker
    obtain ⟨-, registry, -, rfl, -⟩ := Manager.build_eq_ok_iff.mp hbuild
    have hindex : index < registry.size := (List.getElem?_eq_some_iff.mp hget).1
    rw [hend, replay_timeout]
    exact ⟨lt_length_records_replay_new _ _ hindex _, rfl⟩
  refine ⟨?_, ?_, ?_⟩
  · intro other hne
    exact record?_after_of_observes hobserves hne
  · intro other ep hother hurl now isLast
    have hne : other ≠ index := by
      rintro rfl
      exact hurl (congrArg Endpoint.url (Option.some.inj (hother.symm.trans hget)))
    exact unaffected_of_observes hobserves hne hurl now isLast
  · intro other ep _ hurl now isLast
    refine ⟨?_, ?_⟩
    · intro observer hdeed hunhealthy hfault
      rw [← htimeout]
      exact breakerOpen_iff_after_failure hurl ⟨observer, hdeed⟩ hlt hunhealthy hfault now isLast
    · intro latency hdeed
      exact not_breakerOpen_after_success hurl ⟨latency, hdeed⟩ hlt now isLast

/-- Two endpoints with different URLs: when a probe of the first one fails and makes it unhealthy,
the second one stays eligible. -/
theorem observation_stays_with_its_url_of_two :
    let settings := { Settings.standard with healthChecksEnabled := false, breakerThreshold := 1 }
    let refusing : Rpc.Transport Unit := ⟨fun _ _ _ => (⟨5, .result (.error .emptyResult)⟩, ())⟩
    ∃ m built s first second e,
      Manager.build [.ofUrl "http://a", .ofUrl "http://b"] settings refusing () .standard
        (fun _ => 0) = .ok (m, built) ∧
      Run m.setup (idle m.world) [] s ∧ m.setup.registry.get? 0 = some first ∧
      m.setup.registry.get? 1 = some second ∧ e.deed.Observes 0 first ∧
      second.url ≠ first.url ∧
      ((s.world.tracker.after e).recordAt 0).status = .unhealthy ∧
      ((s.world.tracker.after e).eligibility e.time.instant 1 second true).1 = .eligible := by
  intro settings refusing
  have hregistry : Registry.ofConfigs [.ofUrl "http://a", .ofUrl "http://b"] = .ok _ :=
    Registry.ofConfigs_of_ordered (List.cons_ne_nil _ _) (by decide)
  let m := Manager.fresh ⟨[.ofUrl "http://a", .ofUrl "http://b"].map Endpoint.ofConfig, by simp,
    by decide⟩ settings refusing () .standard fun _ => 0
  have hbuild : Manager.build [.ofUrl "http://a", .ofUrl "http://b"] settings refusing () .standard
      (fun _ => 0) = .ok (m, _) := Manager.build_eq_ok_iff.mpr ⟨rfl, _, hregistry, rfl, rfl⟩
  let e : Entry := ⟨m.world.reading m.setup, .failure 0 (.ofConfig (.ofUrl "http://a")) .probe⟩
  obtain ⟨-, hapart, -⟩ := observation_stays_with_its_url hbuild .nil (show _ = some _ from rfl)
    (show e.deed.Observes 0 _ from ⟨rfl, rfl⟩)
  obtain ⟨-, hsame⟩ := hapart 1 _ rfl (by decide) e.time.instant true
  refine ⟨m, _, idle m.world, _, _, e, hbuild, .nil, rfl, rfl, ⟨rfl, rfl⟩, by decide, by decide, ?_⟩
  rw [hsame]
  decide

/-- Two endpoints with the same URL, which building accepts: when a probe of the first one fails,
the second one is excluded by the breaker, although nothing was observed of it. -/
theorem observation_reaches_endpoint_of_same_url :
    let settings := { Settings.standard with healthChecksEnabled := false, breakerThreshold := 1 }
    let refusing : Rpc.Transport Unit := ⟨fun _ _ _ => (⟨5, .result (.error .emptyResult)⟩, ())⟩
    ∃ m built before b first second,
      Manager.build [.ofUrl "http://a", .ofUrl "http://a"] settings refusing () .standard
        (fun _ => 0) = .ok (m, built) ∧
      Run m.setup (idle m.world) (before ++ [b]) b.after ∧
      m.setup.registry.get? 0 = some first ∧ m.setup.registry.get? 1 = some second ∧
      b.deeds m.setup = [.failure 0 first .probe] ∧
      (b.before.world.tracker.eligibility (b.before.reading m.setup).instant 1 second true).1 =
        .eligible ∧
      (b.after.world.tracker.eligibility (b.before.reading m.setup).instant 1 second true).1 =
        .breakerOpen := by
  intro settings refusing
  have hregistry : Registry.ofConfigs [.ofUrl "http://a", .ofUrl "http://a"] = .ok _ :=
    Registry.ofConfigs_of_ordered (List.cons_ne_nil _ _) (by decide)
  let m := Manager.fresh ⟨[.ofUrl "http://a", .ofUrl "http://a"].map Endpoint.ofConfig, by simp,
    by decide⟩ settings refusing () .standard fun _ => 0
  have hbuild : Manager.build [.ofUrl "http://a", .ofUrl "http://a"] settings refusing () .standard
      (fun _ => 0) = .ok (m, _) := Manager.build_eq_ok_iff.mpr ⟨rfl, _, hregistry, rfl, rfl⟩
  have hrun : Run m.setup (idle m.world) (_ ++ [_]) _ :=
    (((Run.nil.snoc (m := .cycle "ping") rfl).snoc (m := .probe 0 0) rfl).snoc (m := .elapse 5)
      rfl).snoc (m := .probe 0 0) rfl
  exact ⟨m, _, _, _, _, _, hbuild, hrun, rfl, rfl, rfl, by decide, by decide⟩

end Traffic

end Failover
