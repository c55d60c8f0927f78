import Failover.Proofs.Traffic.Account
import Failover.Proofs.Traffic.Gauge

/-!
# Metrics and state

The counters are moved where calls end and where they leave an endpoint, the records where an
observation is taken in, and nothing in the program holds the two together. Here they are compared
over whole runs. The measurements of the calls are their accounts, which come from their
itineraries, and the records count the visits of the same itineraries, so that both can be summed
over the stops, index by index. `Traffic.Meters` is what follows for the values of the metrics.
-/

namespace Failover

variable {σ : Type} {setup : Setup σ}

/-! ## Stops at an index and under a name -/

namespace Itinerary

variable {stops : Itinerary σ}

/-- Stops at endpoints of one name are counted index by index. -/
lemma countP_named
    (h : ∀ stop ∈ stops, setup.registry.get? stop.index = some stop.endpoint) (name : String)
    (q : Stop σ → Bool) :
    (stops.countP fun stop => stop.endpoint.displayName = name && q stop) =
      ∑ index ∈ setup.registry.named name,
        stops.countP fun stop => stop.index = index && q stop := by
  induction stops with
  | nil => simp
  | cons stop rest ih =>
    have hname := Registry.mem_named_iff (h stop List.mem_cons_self) name
    rw [List.countP_cons, ih fun stop hstop => h stop (List.mem_cons_of_mem _ hstop)]
    simp only [List.countP_cons, Finset.sum_add_distrib]
    congr 1
    cases q stop with
    | false => simp
    | true => simp [hname]

/-- A stop at an index is a skip under one of two verdicts, or a visit. -/
lemma countP_index (h : ∀ stop ∈ stops, stop.sends = [] ↔ stop.Excluded setup) (index : Nat) :
    (stops.countP fun stop =>
          stop.index = index && (!stop.isVisit && stop.verdict setup = .breakerOpen)) +
        (stops.countP fun stop =>
          stop.index = index && (!stop.isVisit && stop.verdict setup = .unhealthy)) +
        (stops.countP fun stop => stop.index = index && stop.isVisit) =
      stops.countP fun stop => stop.index = index := by
  induction stops with
  | nil => rfl
  | cons stop rest ih =>
    have hrest := ih fun stop hstop => h stop (List.mem_cons_of_mem _ hstop)
    have hvisit := Stop.isVisit_eq_allows (h stop List.mem_cons_self)
    simp only [List.countP_cons, hvisit]
    cases stop.verdict setup <;> by_cases hindex : stop.index = index <;>
      simp [Eligibility.allows, hindex] <;> omega

/-- A call stops at most once at an index. -/
lemma Reached.countP_index_eq (h : stops.Reached setup) (index : Nat) :
    (stops.countP fun stop => stop.index = index) =
      if stops.any (fun stop => stop.index = index) then 1 else 0 := by
  have hcount : (stops.countP fun stop => stop.index = index) =
      (stops.map Stop.index).count index := by
    rw [List.count_eq_countP, List.countP_map]
    rfl
  have hany : stops.any (fun stop => stop.index = index) = true ↔
      index ∈ stops.map Stop.index := by
    simp
  rw [hcount, if_congr hany rfl rfl, h.indices]
  exact List.nodup_range.count

end Itinerary

/-- A record counts the successful calls of its history, and among its requests the others. -/
lemma HealthRecord.Reflects.requests {threshold : Nat} {history : List Observation}
    {r : HealthRecord} (h : r.Reflects threshold history) :
    r.successfulRequests = (history.countP fun o => o.isCall && o.isSuccess == true) ∧
      r.totalRequests - r.successfulRequests =
        history.countP fun o => o.isCall && o.isSuccess == false := by
  have hsplit : history.countP Observation.isCall =
      (history.countP fun o => o.isCall && o.isSuccess) +
        history.countP fun o => o.isCall && o.isSuccess == false := by
    rw [List.countP_eq_countP_filter_add history Observation.isCall Observation.isSuccess,
      List.countP_filter, List.countP_filter]
    simp
  rw [h.totalRequests, h.successfulRequests, hsplit]
  simp

/-! ## Sums over the calls of a run -/

namespace Traffic

variable {settings : Settings} {start s : Traffic σ} {beats : List (Beat σ)}

/-- The metrics after the moves of a run. -/
def metrics (beats : List (Beat σ)) : Metrics := .ofMeasurements (Traffic.notes beats).measurements

/-- How often the calls of a run have passed over the endpoint with an index under a verdict. -/
def skipCount (setup : Setup σ) (s : Traffic σ) (beats : List (Beat σ)) (reason : Eligibility)
    (index : Nat) : Nat :=
  ∑ id ∈ Finset.range s.calls.length,
    (itinerary setup id (ownBeats id beats)).countP fun stop =>
      stop.index = index && (!stop.isVisit && stop.verdict setup = reason)

/-- The number of calls of a run that have reached the endpoint with an index. -/
def reachedCount (setup : Setup σ) (s : Traffic σ) (beats : List (Beat σ)) (index : Nat) : Nat :=
  ((Finset.range s.calls.length).filter fun id =>
    (itinerary setup id (ownBeats id beats)).any fun stop => stop.index = index).card

lemma value?_metrics {m : Measurement} (hm : m.isOfCall = true) :
    (metrics beats).value? m.series =
      Reckoning.counted ((Traffic.notes beats).measurements.count m) :=
  Metrics.value?_ofMeasurements_of_counts (Measurement.counts_of_isOfCall hm) _

section Calls

variable (hrun : Run setup start beats s) (hidle : start.calls = [])
  (hpolicy : setup.policy = .new settings.maxRetries settings.backoffUnit)
  (htransport : setup.transport.Faultless)
  (hfaultless : start.world.tracker.Faultless (log setup beats))

include hrun hidle hpolicy htransport hfaultless

/-- Every call that reached an endpoint passed over it or visited it, and did so once. -/
lemma Run.skipCount_add_visitCount (index : Nat) :
    skipCount setup s beats .breakerOpen index + skipCount setup s beats .unhealthy index +
      visitCount setup s beats index = reachedCount setup s beats index := by
  unfold skipCount visitCount reachedCount
  rw [Finset.card_filter, ← Finset.sum_add_distrib, ← Finset.sum_add_distrib]
  refine Finset.sum_congr rfl ?_
  intro id hid
  have hc := List.getElem?_eq_getElem (Finset.mem_range.mp hid)
  obtain ⟨hat, -⟩ := hrun.call_at hidle hpolicy htransport hfaultless hc
  rw [Itinerary.countP_index hat.reached.skipped_iff, hat.reached.countP_index_eq]

/-- How often each ending was counted for a method. -/
lemma Run.count_ends (method : String) (ending : CallEnd) :
    (Traffic.notes beats).measurements.count (.call method ending) =
      s.calls.countP fun c => c.request.method = method && c.ending? = some ending := by
  rw [← sum_range_getElem?]
  refine hrun.count_measurements hidle hpolicy htransport hfaultless rfl _ ?_
  intro id c hc
  rw [Call.count_account_call, hc]
  simp

variable (hended : ∀ c ∈ s.calls, c.result?.isSome)

include hended

/-- When every call has ended, how often an outcome was measured under a name is a sum over the
stops at the endpoints of this name. -/
lemma Run.count_outcomes {m : Measurement} (hm : m.isOfCall = true)
    (hend : ∀ method ending, m ≠ .call method ending) (name : String) (q : Nat → Stop σ → Bool)
    (hq : ∀ id c, s.calls[id]? = some c → ∀ stop : Stop σ, stop.outcome setup c.request = m ↔
      stop.endpoint.displayName = name ∧ q id stop = true) :
    (Traffic.notes beats).measurements.count m =
      ∑ index ∈ setup.registry.named name, ∑ id ∈ Finset.range s.calls.length,
        (itinerary setup id (ownBeats id beats)).countP fun stop =>
          stop.index = index && q id stop := by
  rw [Finset.sum_comm]
  refine hrun.count_measurements hidle hpolicy htransport hfaultless hm _ ?_
  intro id c hc
  obtain ⟨hat, -⟩ := hrun.call_at hidle hpolicy htransport hfaultless hc
  rw [Call.count_account_of_result? (hended c (List.mem_of_getElem? hc)) hend,
    ← Itinerary.countP_named hat.reached.endpoints]
  refine List.countP_congr ?_
  intro stop _
  simp [hq id c hc stop]

/-- When every call has ended, how often endpoints of a name were counted as passed over under a
verdict. -/
lemma Run.count_skips (name : String) (reason : Eligibility) :
    (Traffic.notes beats).measurements.count (.skip name reason) =
      ∑ index ∈ setup.registry.named name, skipCount setup s beats reason index := by
  refine hrun.count_outcomes hidle hpolicy htransport hfaultless hended
    (m := .skip name reason) rfl nofun name
    (fun _ stop => !stop.isVisit && stop.verdict setup = reason) ?_
  intro id c _ stop
  unfold Stop.outcome
  cases stop.isVisit <;> simp

/-- When every call has ended, how often an outcome was counted for endpoints of a name is how often
the calls have observed it there. -/
lemma Run.count_attempts (name : String) (succeeded : Bool) :
    (Traffic.notes beats).measurements.count (.attempt name succeeded) =
      ∑ index ∈ setup.registry.named name,
        (Tracker.history index (log setup beats)).countP
          fun o => o.isCall && o.isSuccess == succeeded := by
  rw [hrun.count_outcomes hidle hpolicy htransport hfaultless hended
    (m := .attempt name succeeded) rfl nofun name fun id stop =>
      ((s.calls[id]?.bind fun c => stop.value? setup c.request).isSome == succeeded) &&
        stop.isVisit]
  · refine Finset.sum_congr rfl ?_
    intro index _
    have hp : ∀ o : Observation, (o.isCall && o.isSuccess == succeeded) = true → o.isCall = true :=
      fun _ h => (Bool.and_eq_true_iff.mp h).1
    rw [hrun.countP_history hidle hpolicy htransport hfaultless hended hp fun id stop =>
      stop.index = index &&
        (s.calls[id]?.bind fun c => stop.value? setup c.request).isSome == succeeded]
    · simp only [Bool.and_assoc]
    · intro id c hc stop b hcommitted
      obtain ⟨latency?, hlatency, hhistory⟩ := history_of_committed hcommitted index
      rw [hhistory, hc, Option.bind_some, ← hlatency]
      by_cases hindex : stop.index = index <;>
        simp [hindex, Observation.isCall, Observation.isSuccess]
  · intro id c hc stop
    rw [hc, Option.bind_some]
    unfold Stop.outcome
    cases stop.isVisit <;> simp

end Calls

/-! ## Records of a run -/

/-- When the tracker was new at the start of a run, the record of an endpoint reflects what the run
has observed of it. -/
lemma Run.recordAt_reflects (hrun : Run setup start beats s) {threshold : UInt32}
    {timeout : Duration} (hfresh : start.world.tracker = .new setup.registry.size threshold timeout)
    {index : Nat} (hindex : index < setup.registry.size) :
    (s.world.tracker.recordAt index).Reflects (max threshold.toNat 1)
      (Tracker.history index (log setup beats)) := by
  obtain ⟨hrecord, hreflects⟩ :=
    Tracker.reflects_replay_new threshold timeout hindex (log setup beats)
  rw [← hfresh, ← hrun.tracker] at hrecord
  rw [Tracker.recordAt_of_record? hrecord]
  exact hreflects

/-- The gauge of a name that only one endpoint has is absent before the first observation of this
endpoint and shows its present status after that. -/
lemma Run.value?_health (hrun : Run setup start beats s) {threshold : UInt32} {timeout : Duration}
    (hfresh : start.world.tracker = .new setup.registry.size threshold timeout)
    (hfaultless : start.world.tracker.Faultless (log setup beats)) {name : String} {index : Nat}
    (hnamed : setup.registry.named name = {index}) :
    (metrics beats).value?
        (Measurement.health name (s.world.tracker.recordAt index).status).series =
      if Tracker.history index (log setup beats) = [] then none
      else some (.gauge (s.world.tracker.recordAt index).status.gauge) := by
  rw [metrics, Metrics.value?_ofMeasurements_health,
    hrun.getLast?_health hfresh hfaultless hnamed]
  split <;> rfl

/-! ## The meters -/

/-- What the metrics of a run in which every call has ended say about its calls and records. -/
structure Meters (setup : Setup σ) (s : Traffic σ) (beats : List (Beat σ)) : Prop where
  /-- The successful attempts under a name are the successes in the records of its endpoints. -/
  successes : ∀ name, (metrics beats).value? (Measurement.attempt name true).series =
    Reckoning.counted (∑ index ∈ setup.registry.named name,
      (s.world.tracker.recordAt index).successfulRequests)
  /-- The failed attempts under a name are the other requests in these records. -/
  failures : ∀ name, (metrics beats).value? (Measurement.attempt name false).series =
    Reckoning.counted (∑ index ∈ setup.registry.named name,
      ((s.world.tracker.recordAt index).totalRequests -
        (s.world.tracker.recordAt index).successfulRequests))
  /-- No record counts more successes than requests. -/
  successes_le : ∀ index < setup.registry.size,
    (s.world.tracker.recordAt index).successfulRequests ≤
      (s.world.tracker.recordAt index).totalRequests
  /-- Each ending is counted for a method as often as a call of this method ended so. -/
  ends : ∀ method ending, (metrics beats).value? (Measurement.call method ending).series =
    Reckoning.counted (s.calls.countP fun c => c.request.method = method && c.ending? = some ending)
  /-- The skips under a name are those of its endpoints, verdict by verdict. -/
  skips : ∀ name reason, (metrics beats).value? (Measurement.skip name reason).series =
    Reckoning.counted (∑ index ∈ setup.registry.named name, skipCount setup s beats reason index)
  /-- The skips of an endpoint and the visits in its record are the calls that reached it. -/
  reached : ∀ index < setup.registry.size,
    skipCount setup s beats .breakerOpen index + skipCount setup s beats .unhealthy index +
      (s.world.tracker.recordAt index).totalRequests = reachedCount setup s beats index
  /-- A call that ran out of endpoints has counted one skip or one failed attempt for each of them,
  and then its end. -/
  exhausted : ∀ (id : Nat) (c : Call), s.calls[id]? = some c → c.ending? = some .exhausted →
    ∃ outcomes, (Traffic.notes (ownBeats id beats)).measurements.filter Measurement.isOfCall =
        outcomes ++ [.call c.request.method .exhausted] ∧
      List.Forall₂ Endpoint.PassedBy setup.registry.endpoints outcomes
  /-- The health gauge of a name that only one endpoint has shows the present status of this
  endpoint once it was observed, and is absent before. -/
  health : ∀ name index, setup.registry.named name = {index} →
    (metrics beats).value?
        (Measurement.health name (s.world.tracker.recordAt index).status).series =
      if Tracker.history index (log setup beats) = [] then none
      else some (.gauge (s.world.tracker.recordAt index).status.gauge)
  /-- What it shows is the code of this status: 0 for unknown, 1 for healthy, 2 for degraded and 3
  for unhealthy. -/
  health_code : ∀ name index, setup.registry.named name = {index} →
    Tracker.history index (log setup beats) ≠ [] →
      ∃ code, (s.world.tracker.recordAt index).status.Code code ∧
        (metrics beats).value?
          (Measurement.health name (s.world.tracker.recordAt index).status).series =
            some (.gauge code)

/-- **Metrics agree with the state.** Over a transport without faults, whatever calls, probe cycles
and reports went on at any pace: when every call has ended, the counters of attempts under a name
are the request counters in the records of its endpoints, the counters of calls count the calls by
how they ended, every call that reached an endpoint is counted there once, as a skip or as a visit,
and the health gauge of a name that only one endpoint has shows the status of this endpoint. -/
theorem metrics_agree_with_state {configs : List EndpointConfig} {settings : Settings}
    {transport : Rpc.Transport σ} {wire : σ} {clock : Clock} {draw : Nat → Nat} {m : Manager σ}
    {built : Journal}
    (hbuild : Manager.build configs settings transport wire clock draw = .ok (m, built))
    (htransport : transport.Faultless) (hrun : Run m.setup (idle m.world) beats s)
    (hfaultless : m.world.tracker.Faultless (log m.setup beats))
    (hended : ∀ c ∈ s.calls, c.result?.isSome) : Meters m.setup s beats := by
  obtain ⟨-, registry, -, rfl, -⟩ := Manager.build_eq_ok_iff.mp hbuild
  exact {
    successes := by
      intro name
      rw [value?_metrics rfl, hrun.count_attempts rfl rfl htransport hfaultless hended]
      refine congrArg Reckoning.counted (Finset.sum_congr rfl ?_)
      intro index hindex
      have hlt := Registry.lt_size_of_mem_named hindex
      exact (hrun.recordAt_reflects rfl hlt).requests.1.symm
    failures := by
      intro name
      rw [value?_metrics rfl, hrun.count_attempts rfl rfl htransport hfaultless hended]
      refine congrArg Reckoning.counted (Finset.sum_congr rfl ?_)
      intro index hindex
      have hlt := Registry.lt_size_of_mem_named hindex
      exact (hrun.recordAt_reflects rfl hlt).requests.2.symm
    successes_le := fun index hindex => (hrun.recordAt_reflects rfl hindex).successful_le_total
    ends := by
      intro method ending
      rw [value?_metrics rfl, hrun.count_ends rfl rfl htransport hfaultless]
    skips := by
      intro name reason
      rw [value?_metrics rfl, hrun.count_skips rfl rfl htransport hfaultless hended]
    reached := by
      intro index hindex
      obtain ⟨r, hr, hvisits, -⟩ :=
        hrun.record_counts rfl rfl rfl htransport hfaultless hended hindex
      rw [Tracker.recordAt_of_record? hr, hvisits]
      exact hrun.skipCount_add_visitCount rfl rfl htransport hfaultless index
    exhausted := by
      intro id c hc hending
      obtain ⟨hat, -⟩ := hrun.call_at rfl rfl htransport hfaultless hc
      rw [hrun.account rfl rfl htransport hfaultless hc]
      exact hat.account_of_exhausted hending
    health := fun name index hnamed => hrun.value?_health rfl hfaultless hnamed
    health_code := by
      intro name index hnamed hobserved
      refine ⟨_, HealthStatus.code_gauge _, ?_⟩
      rw [hrun.value?_health rfl hfaultless hnamed, if_neg hobserved] }

/-- Two calls at once, to two endpoints with one attempt each and a breaker that opens at the first
failure. The first call fails at both endpoints, the second one passes over the first endpoint and
has a value from the second one, and a probe finds the first endpoint healthy again. -/
theorem metrics_agree_with_state_of_two_calls :
    let settings := { Settings.standard with
      healthChecksEnabled := false
      maxRetries := 1
      breakerThreshold := 1 }
    let late : Rpc.Transport Nat :=
      ⟨fun n _ _ => (⟨0, .result (if n < 2 then .error .emptyResult else .ok (.bool true))⟩, n + 1)⟩
    ∃ m built beats s,
      Manager.build [.ofUrl "http://a", .ofUrl "http://b"] settings late 0 .standard
        (fun _ => 0) = .ok (m, built) ∧
      late.Faultless ∧ Run m.setup (idle m.world) beats s ∧
      m.world.tracker.Faultless (log m.setup beats) ∧ (∀ c ∈ s.calls, c.result?.isSome) ∧
      (metrics beats).value? (Measurement.attempt "http://a" true).series = none ∧
      (metrics beats).value? (Measurement.attempt "http://a" false).series = some (.counter 1) ∧
      (metrics beats).value? (Measurement.call "ping" .success).series = some (.counter 1) ∧
      (metrics beats).value? (Measurement.call "ping" .exhausted).series = some (.counter 1) ∧
      (metrics beats).value? (Measurement.skip "http://a" .breakerOpen).series =
        some (.counter 1) ∧
      reachedCount m.setup s beats 0 = 2 ∧
      (metrics beats).value? (Measurement.health "http://a" .healthy).series =
        some (.gauge 1.0) := by
  intro settings late
  have hregistry : Registry.ofConfigs [.ofUrl "http://a", .ofUrl "http://b"] = .ok _ :=
    Registry.ofConfigs_of_ordered (List.cons_ne_nil _ _) (by decide)
  let m := Manager.fresh ⟨[.ofUrl "http://a", .ofUrl "http://b"].map Endpoint.ofConfig, by simp,
    by decide⟩ settings late 0 .standard fun _ => 0
  have hbuild : Manager.build [.ofUrl "http://a", .ofUrl "http://b"] settings late 0 .standard
      (fun _ => 0) = .ok (m, _) := Manager.build_eq_ok_iff.mpr ⟨rfl, _, hregistry, rfl, rfl⟩
  have htransport : late.Faultless := fun _ _ _ _ => nofun
  let past := play m.setup ([], idle m.world)
    [.call ⟨"ping", []⟩, .call ⟨"ping", []⟩, .advance 0, .advance 0, .advance 1, .advance 0,
      .advance 1, .advance 0, .advance 1, .advance 0, .cycle "ping", .probe 0 0, .probe 0 0]
  have hrun : Run m.setup (idle m.world) past.1 past.2 := Run.nil.play _
  have hended : ∀ c ∈ past.2.calls, c.result?.isSome := by decide
  have hmeters := metrics_agree_with_state hbuild htransport hrun (by decide) hended
  have hstatus : (past.2.world.tracker.recordAt 0).status = .healthy := by decide
  have hhealth := hmeters.health "http://a" 0 (by decide)
  rw [hstatus, if_neg (by decide), HealthStatus.gauge_healthy] at hhealth
  refine ⟨m, _, past.1, past.2, hbuild, htransport, hrun, by decide, hended, ?_, ?_, ?_, ?_, ?_,
    ?_, hhealth⟩
  · exact (hmeters.successes _).trans (congrArg Reckoning.counted (by decide : _ = 0))
  · exact (hmeters.failures _).trans (congrArg Reckoning.counted (by decide : _ = 1))
  · exact (hmeters.ends _ _).trans (congrArg Reckoning.counted (by decide : _ = 1))
  · exact (hmeters.ends _ _).trans (congrArg Reckoning.counted (by decide : _ = 1))
  · exact (hmeters.skips _ _).trans (congrArg Reckoning.counted (by decide : _ = 1))
  · exact (hmeters.reached 0 (by decide)).symm.trans (by decide)

end Traffic

end Failover
