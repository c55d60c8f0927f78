import Failover.Proofs.Tracker.LatestFailure

/-!
# Failures that lead beyond the clock

A failure that makes its endpoint unhealthy opens the breaker, and for this the clock has to show
the end of the timeout. Where it cannot, taking in the failure ends in a fault. By then the record
has changed, so a tracker that goes on after the fault holds an unhealthy endpoint whose latest
failure did not open its breaker.

`Tracker.records_after_failure` and `Tracker.breakers_after_failure` say what a failure does to the
two parts of a tracker, with a fault and without one. Nothing here asks for the faultless logs of
the other modules: a replay goes on after a fault with the tracker that the fault leaves behind.
-/

namespace Failover

namespace Tracker

/-! ## One failure -/

section Failure

variable {t : Tracker} {index : Nat} (hlt : index < t.records.length) (time : Reading)
  (endpoint : Endpoint) (observer : Observer)

include hlt

/-- The record takes a failure in, whether this ends in a fault or not. -/
lemma records_after_failure :
    (t.after ⟨time, .failure index endpoint observer⟩).records =
      t.records.set index ((t.recordAt index).observe t.threshold ⟨observer, time.wall, none⟩) := by
  obtain ⟨r, hr⟩ := record?_of_lt hlt
  rw [records_after, recordAt_of_record? hr]
  exact (records_setRecord hr fun r => r.observe t.threshold ⟨observer, time.wall, none⟩).symm

/-- A failure ends in a fault exactly if its endpoint is unhealthy after it and the clock cannot
show the end of the timeout. -/
lemma fault?_failure_ne_none_iff :
    t.fault? ⟨time, .failure index endpoint observer⟩ ≠ none ↔
      ((t.recordAt index).observe t.threshold ⟨observer, time.wall, none⟩).status = .unhealthy ∧
        Instant.limit ≤ time.instant.nanos + t.breakers.timeout.nanos := by
  obtain ⟨r, hr⟩ := record?_of_lt hlt
  rw [fault?_failure hr, recordAt_of_record? hr]
  simp [Instant.after?_eq_none_iff]

/-- A failure opens the breaker of its endpoint exactly if this is unhealthy after it and the clock
can show the end of the timeout, and leaves the breakers alone otherwise. -/
lemma breakers_after_failure :
    (t.after ⟨time, .failure index endpoint observer⟩).breakers =
      if ((t.recordAt index).observe t.threshold ⟨observer, time.wall, none⟩).status = .unhealthy ∧
          time.instant.nanos + t.breakers.timeout.nanos < Instant.limit then
        t.breakers.insert endpoint.url ⟨time.instant.nanos + t.breakers.timeout.nanos⟩
      else t.breakers := by
  obtain ⟨r, hr⟩ := record?_of_lt hlt
  rw [after, perform_failure hr, recordAt_of_record? hr]
  dsimp only
  by_cases hstatus : (r.observe t.threshold ⟨observer, time.wall, none⟩).status = .unhealthy
  · cases hend : time.instant.after? t.breakers.timeout with
    | none =>
      have hlimit := Instant.after?_eq_none_iff.mp hend
      simp [hstatus, Nat.not_lt.mpr hlimit]
    | some endsAt =>
      obtain ⟨hlimit, hnanos⟩ := Instant.after?_eq_some_iff.mp hend
      obtain rfl : endsAt = ⟨_⟩ := Instant.ext hnanos
      simp [hstatus, hlimit]
  · simp [hstatus]

end Failure

/-! ## Logs that go on after faults -/

/-- After any log, the latest observation of an unhealthy endpoint was a failure. It opened the
breaker if the clock could show the end of the timeout, and else left the breakers alone. -/
lemma latest_failure_of_unhealthy {registry : Registry} {index : Nat} {endpoint : Endpoint}
    (hget : registry.get? index = some endpoint) (threshold : UInt32) (timeout : Duration)
    {log : Log} (hfits : ∀ e ∈ log, e.deed.Fits registry)
    (hunhealthy :
      (((new registry.size threshold timeout).replay log).recordAt index).status = .unhealthy) :
    let start := new registry.size threshold timeout
    ∃ before e later, log = before ++ e :: later ∧ e.failsAt index = true ∧
      (∀ f ∈ later, f.observation? index = none) ∧
      (start.replay (before ++ [e])).breakers =
        if e.time.instant.nanos + timeout.nanos < Instant.limit then
          (start.replay before).breakers.insert endpoint.url
            ⟨e.time.instant.nanos + timeout.nanos⟩
        else (start.replay before).breakers := by
  intro start
  induction log using List.reverseRecOn with
  | nil =>
    rw [replay_nil, recordAt_new] at hunhealthy
    cases hunhealthy
  | append_singleton log e ih =>
    have hfit : e.deed.Fits registry := hfits e (by simp)
    rw [replay_concat] at hunhealthy
    cases hobserved : e.observation? index with
    | some o =>
      obtain ⟨hfails, -, -⟩ := trips_of_unhealthy hget hfit hobserved hunhealthy
      refine ⟨log, e, [], rfl, hfails, by simp, ?_⟩
      have hindex : index < registry.size := (List.getElem?_eq_some_iff.mp hget).1
      have hlt := lt_length_records_replay_new threshold timeout hindex log
      obtain ⟨time, deed⟩ := e
      cases deed with
      | failure i ep observer =>
        obtain rfl : i = index := by simpa [Entry.failsAt] using hfails
        obtain rfl := Option.some.inj (hget.symm.trans hfit)
        obtain ⟨r, hr⟩ := record?_of_lt hlt
        rw [recordAt_after_failure hr, ← recordAt_of_record? hr] at hunhealthy
        rw [replay_concat, breakers_after_failure hlt, hunhealthy, replay_timeout]
        simp [start, new, BreakerTable.empty]
      | success i ep latency observer => cases hfails
      | judge i ep isLast => cases hfails
      | inquire ep => cases hfails
      | survey r => cases hfails
    | none =>
      rw [recordAt_after_of_observation?_eq_none hobserved] at hunhealthy
      obtain ⟨before, f, later, rfl, hfails, hquiet, hbreakers⟩ :=
        ih (fun f hf => hfits f (List.mem_append_left _ hf)) hunhealthy
      refine ⟨before, f, later ++ [e], by simp, hfails, ?_, hbreakers⟩
      intro g hg
      rcases List.mem_append.mp hg with hlater | hlast
      · exact hquiet g hlater
      · obtain rfl := List.mem_singleton.mp hlast
        exact hobserved

/-- **A failure marks its endpoint before it trips the breaker.** After any log, also one in which
observations ended in faults, a failure changes the record of its index in any case. It opens the
breaker if the endpoint is unhealthy after that and the clock can show the end of the timeout; if it
cannot, the failure ends in a fault and leaves the breakers alone. So an endpoint is unhealthy after
a latest failure that opened its breaker exactly if the clock could show the end of that. -/
theorem failure_marks_before_it_trips (registry : Registry) (threshold : UInt32)
    (timeout : Duration) (log : Log) (hfits : ∀ e ∈ log, e.deed.Fits registry) (index : Nat)
    (endpoint : Endpoint) (hget : registry.get? index = some endpoint) :
    let start := new registry.size threshold timeout
    let t := start.replay log
    (∀ (time : Reading) (observer : Observer),
      let e : Entry := ⟨time, .failure index endpoint observer⟩
      let endsAt := time.instant.nanos + timeout.nanos
      let marked :=
        (t.recordAt index).observe (max threshold.toNat 1) ⟨observer, time.wall, none⟩
      (t.after e).records = t.records.set index marked ∧
        (t.fault? e ≠ none ↔ marked.status = .unhealthy ∧ Instant.limit ≤ endsAt) ∧
        (t.after e).breakers =
          if marked.status = .unhealthy ∧ endsAt < Instant.limit then
            t.breakers.insert endpoint.url ⟨endsAt⟩
          else t.breakers) ∧
    ((t.recordAt index).status = .unhealthy →
      ∃ before e later, log = before ++ e :: later ∧ e.failsAt index = true ∧
        (∀ f ∈ later, f.observation? index = none) ∧
        (start.replay (before ++ [e])).breakers =
          if e.time.instant.nanos + timeout.nanos < Instant.limit then
            (start.replay before).breakers.insert endpoint.url
              ⟨e.time.instant.nanos + timeout.nanos⟩
          else (start.replay before).breakers) := by
  intro start t
  refine ⟨?_, latest_failure_of_unhealthy hget threshold timeout hfits⟩
  intro time observer
  have hindex : index < registry.size := (List.getElem?_eq_some_iff.mp hget).1
  have hlt := lt_length_records_replay_new threshold timeout hindex log
  have hthreshold : t.threshold = max threshold.toNat 1 := replay_threshold start log
  have htimeout : t.breakers.timeout = timeout := replay_timeout start log
  have hrecords := records_after_failure hlt time endpoint observer
  have hfault := fault?_failure_ne_none_iff hlt time endpoint observer
  have hbreakers := breakers_after_failure hlt time endpoint observer
  rw [hthreshold] at hrecords
  rw [hthreshold, htimeout] at hfault hbreakers
  exact ⟨hrecords, hfault, hbreakers⟩

/-- With a threshold of two, the second failure under a timeout that no clock can show ends in a
fault: it leaves no breaker open, and it stays the latest failure of the endpoint. -/
theorem failure_marks_before_it_trips_at_the_second_failure :
    let registry : Registry := ⟨[default], by decide, by decide⟩
    let start := new registry.size 2 .longest
    let e : Entry := ⟨Clock.standard.origin, .failure 0 default .call⟩
    (∀ f ∈ [e], f.deed.Fits registry) ∧ registry.get? 0 = some default ∧
      ((start.replay [e]).recordAt 0).status = .degraded ∧
      (start.replay [e]).fault? e ≠ none ∧
      ((start.replay [e]).after e).breakers = (start.replay [e]).breakers ∧
      ((start.replay [e, e]).recordAt 0).status = .unhealthy ∧
      ∃ before f later, [e, e] = before ++ f :: later ∧ f.failsAt 0 = true ∧
        ∀ g ∈ later, g.observation? 0 = none := by
  intro registry start e
  have hfits : ∀ f ∈ [e, e], f.deed.Fits registry := by
    intro f hf
    obtain rfl | rfl : f = e ∨ f = e := by simpa using hf
    all_goals rfl
  have hfirst : ∀ f ∈ [e], f.deed.Fits registry := fun f hf => hfits f (List.mem_cons_of_mem e hf)
  obtain ⟨hsecond, -⟩ :=
    failure_marks_before_it_trips registry 2 .longest [e] hfirst 0 default rfl
  obtain ⟨-, hfault, hbreakers⟩ := hsecond Clock.standard.origin .call
  rw [if_neg (by decide)] at hbreakers
  obtain ⟨-, hlatest⟩ :=
    failure_marks_before_it_trips registry 2 .longest [e, e] hfits 0 default rfl
  have hunhealthy : ((start.replay [e, e]).recordAt 0).status = .unhealthy := by decide
  obtain ⟨before, f, later, hsplit, hfails, hquiet, -⟩ := hlatest hunhealthy
  exact ⟨hfirst, rfl, by decide, hfault.mpr (by decide), hbreakers, hunhealthy, before, f, later,
    hsplit, hfails, hquiet⟩

/-- A failure under the longest timeout ends in a fault, but it is counted and makes its endpoint
unhealthy, which the breaker does not exclude after that: the next call may try it where it is the
last endpoint. -/
theorem faulted_failure_leaves_unhealthy_without_breaker :
    let start := new 1 1 .longest
    let e : Entry := ⟨Clock.standard.origin, .failure 0 default .call⟩
    start.fault? e = some .clockOverflow ∧
      (start.recordAt 0).status = .unknown ∧ ((start.after e).recordAt 0).status = .unhealthy ∧
      (start.recordAt 0).totalRequests = 0 ∧ ((start.after e).recordAt 0).totalRequests = 1 ∧
      (start.after e).breakers.until? (default : Endpoint).url = none ∧
      ((start.after e).eligibility e.time.instant 0 default true).1 = .eligible := by
  decide

end Tracker

end Failover
