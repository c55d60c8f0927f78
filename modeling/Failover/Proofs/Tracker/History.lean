import Failover.Proofs.Tracker.Log
import Mathlib.Data.List.Induction
import Mathlib.Tactic.Common

/-!
# Health records and their histories

The history of an index is what was observed there, in order, by calls and by probes. A health
record is a function of the history of its index: `HealthRecord.Reflects` says for each of its
fields which one. What happens at other indices, questions and the passing of time leave no trace in
it.

The proof has one step lemma for each kind of observation, which does not mention trackers
(`HealthRecord.Reflects.observe_success`, `HealthRecord.Reflects.observe_failure`), and one lemma
that takes a record apart into the observations of its own index (`Tracker.record?_replay`).
-/

namespace Failover

/-! ## Observations -/

/-- What was observed of one endpoint: by whom, when, and after what time it answered if it did. -/
structure Observation where
  observer : Observer
  wall : Timestamp
  /-- The latency of a success; a failure has none. -/
  latency? : Option Duration
deriving DecidableEq

namespace Observation

/-- Whether a call made the observation. -/
def isCall (o : Observation) : Bool := o.observer = .call

/-- Whether a success was observed. -/
def isSuccess (o : Observation) : Bool := o.latency?.isSome

/-- Whether a failure was observed. -/
def isFailure (o : Observation) : Bool := o.latency?.isNone

/-- The number of failures since the last success. -/
def failuresInRow (history : List Observation) : Nat := (history.reverse.takeWhile isFailure).length

/-- The latest observation that meets a condition. -/
def latest? (p : Observation → Bool) (history : List Observation) : Option Observation :=
  (history.filter p).getLast?

/-- A failure makes the row longer by one, a success ends it. -/
lemma failuresInRow_concat (history : List Observation) (o : Observation) :
    failuresInRow (history ++ [o]) = if o.isFailure then failuresInRow history + 1 else 0 := by
  unfold failuresInRow
  rw [List.reverse_concat, List.takeWhile_cons]
  split <;> rfl

/-- The last observation is the latest if it counts. -/
lemma latest?_concat (p : Observation → Bool) (history : List Observation) (o : Observation) :
    latest? p (history ++ [o]) = if p o then some o else latest? p history := by
  unfold latest?
  by_cases h : p o
  · simp [h]
  · simp [h]

end Observation

namespace HealthRecord

open Observation

/-- The record after an observation. -/
def observe (threshold : Nat) (r : HealthRecord) (o : Observation) : HealthRecord :=
  match o.latency? with
  | some latency => (Tracker.countRequest o.observer true r).succeed latency o.wall
  | none => (Tracker.countRequest o.observer false r).fail threshold o.wall

/-- The smoothed latency after successes with these latencies. -/
def smoothedLatency (latencies : List Duration) : Float :=
  latencies.foldl (fun average latency => smooth average latency.toMillis) 0.0

/-- What the smoothed latency is after successes with these latencies, one by one: zero before any
of them, the new latency as long as it is zero, and after that nine tenths of what it was and a
tenth of the new latency. -/
inductive Smoothed : List Duration → Float → Prop
  | none : Smoothed [] 0.0
  | first {latencies : List Duration} {average : Float} (latency : Duration) :
    Smoothed latencies average → (average == 0.0) = true →
    Smoothed (latencies ++ [latency]) latency.toMillis
  | next {latencies : List Duration} {average : Float} (latency : Duration) :
    Smoothed latencies average → (average == 0.0) = false →
    Smoothed (latencies ++ [latency]) (average * 0.9 + latency.toMillis * (1.0 - 0.9))

/-- Every field of a record is what the history of its endpoint says. -/
structure Reflects (threshold : Nat) (history : List Observation) (r : HealthRecord) : Prop where
  consecutiveFailures : r.consecutiveFailures = min (failuresInRow history) 4294967295
  unknown_iff : r.status = .unknown ↔ history = []
  healthy_iff : r.status = .healthy ↔ ∃ o, history.getLast? = some o ∧ o.isSuccess
  degraded_iff : r.status = .degraded ↔
    (∃ o, history.getLast? = some o ∧ o.isFailure) ∧ r.consecutiveFailures < threshold
  unhealthy_iff : r.status = .unhealthy ↔ threshold ≤ r.consecutiveFailures
  totalRequests : r.totalRequests = history.countP isCall
  successfulRequests : r.successfulRequests = history.countP fun o => o.isCall && o.isSuccess
  successful_le_total : r.successfulRequests ≤ r.totalRequests
  lastSuccess : r.lastSuccess = (latest? isSuccess history).map wall
  lastFailure : r.lastFailure = (latest? isFailure history).map wall
  avgLatencyMs : r.avgLatencyMs = smoothedLatency (history.filterMap latency?)
  smoothed : Smoothed (history.filterMap latency?) r.avgLatencyMs

/-- The record of an endpoint that was never observed reflects the empty history. -/
lemma reflects_initial {threshold : Nat} (hpos : 0 < threshold) :
    Reflects threshold [] initial where
  consecutiveFailures := rfl
  unknown_iff := by simp [initial]
  healthy_iff := by simp [initial]
  degraded_iff := by simp [initial]
  unhealthy_iff := by simp [initial]; omega
  totalRequests := rfl
  successfulRequests := rfl
  successful_le_total := Nat.le_refl _
  lastSuccess := rfl
  lastFailure := rfl
  avgLatencyMs := rfl
  smoothed := .none

/-- The number of requests that an observation stands for. -/
def weight (observer : Observer) : Nat := if observer = .call then 1 else 0

/-- What a record becomes by a success. -/
lemma observe_success (threshold : Nat) (r : HealthRecord) (observer : Observer) (wall : Timestamp)
    (latency : Duration) :
    r.observe threshold ⟨observer, wall, some latency⟩ =
      { r with
        status := .healthy
        lastSuccess := some wall
        consecutiveFailures := 0
        totalRequests := r.totalRequests + weight observer
        successfulRequests := r.successfulRequests + weight observer
        avgLatencyMs := smooth r.avgLatencyMs latency.toMillis } := by
  cases observer <;> rfl

/-- What a record becomes by a failure. -/
lemma observe_failure (threshold : Nat) (r : HealthRecord) (observer : Observer)
    (wall : Timestamp) :
    r.observe threshold ⟨observer, wall, none⟩ =
      { r with
        status := failedStatus threshold (nextFailures r.consecutiveFailures)
        lastFailure := some wall
        consecutiveFailures := nextFailures r.consecutiveFailures
        totalRequests := r.totalRequests + weight observer } := by
  cases observer <;> rfl

/-- An observation weighs on the calls as much as its observer. -/
lemma countP_isCall_concat (history : List Observation) (o : Observation) :
    (history ++ [o]).countP isCall = history.countP isCall + weight o.observer := by
  rw [List.countP_append, List.countP_singleton]
  simp [isCall, weight]

/-- One more latency is smoothed into the average of those before it. -/
lemma smoothedLatency_concat (latencies : List Duration) (latency : Duration) :
    smoothedLatency (latencies ++ [latency]) =
      smooth (smoothedLatency latencies) latency.toMillis := by
  unfold smoothedLatency
  rw [List.foldl_append, List.foldl_cons, List.foldl_nil]

/-- One more sample is smoothed in. -/
lemma Smoothed.smooth {latencies : List Duration} {average : Float}
    (h : Smoothed latencies average) (latency : Duration) :
    Smoothed (latencies ++ [latency]) (HealthRecord.smooth average latency.toMillis) := by
  cases hzero : average == 0.0 with
  | true =>
    rw [smooth_of_zero hzero]
    exact h.first latency hzero
  | false =>
    rw [smooth_of_ne_zero hzero]
    exact h.next latency hzero

/-- A success is reflected by the record after it. -/
lemma Reflects.observe_success {threshold : Nat} {history : List Observation} {r : HealthRecord}
    (hpos : 0 < threshold) (h : Reflects threshold history r) (observer : Observer)
    (wall : Timestamp) (latency : Duration) :
    Reflects threshold (history ++ [⟨observer, wall, some latency⟩])
      (r.observe threshold ⟨observer, wall, some latency⟩) := by
  rw [HealthRecord.observe_success]
  have hle := h.successful_le_total
  exact {
    consecutiveFailures := by simp [failuresInRow_concat, isFailure]
    unknown_iff := by simp
    healthy_iff := by simp [isSuccess]
    degraded_iff := by simp [isFailure]
    unhealthy_iff := by simp; omega
    totalRequests := by rw [countP_isCall_concat, ← h.totalRequests]
    successfulRequests := by
      rw [List.countP_append, List.countP_singleton, ← h.successfulRequests]
      simp [isCall, isSuccess, weight]
    successful_le_total := by simp only; omega
    lastSuccess := by simp [latest?_concat, isSuccess]
    lastFailure := by rw [latest?_concat, h.lastFailure]; rfl
    avgLatencyMs := by
      rw [List.filterMap_append]
      show smooth r.avgLatencyMs latency.toMillis =
        smoothedLatency (history.filterMap latency? ++ [latency])
      rw [smoothedLatency_concat, ← h.avgLatencyMs]
    smoothed := by
      rw [List.filterMap_append]
      exact h.smoothed.smooth latency }

/-- A failure is reflected by the record after it. -/
lemma Reflects.observe_failure {threshold : Nat} {history : List Observation} {r : HealthRecord}
    (h : Reflects threshold history r) (observer : Observer) (wall : Timestamp) :
    Reflects threshold (history ++ [⟨observer, wall, none⟩])
      (r.observe threshold ⟨observer, wall, none⟩) := by
  rw [HealthRecord.observe_failure]
  have hle := h.successful_le_total
  exact {
    consecutiveFailures := by
      simp only [nextFailures, failureCap, failuresInRow_concat, isFailure, h.consecutiveFailures]
      simp only [Option.isNone_none, if_true]
      omega
    unknown_iff := by
      unfold failedStatus
      split <;> simp
    healthy_iff := by
      unfold failedStatus
      split <;> simp [isSuccess]
    degraded_iff := by
      unfold failedStatus
      split <;> simp [isFailure] <;> omega
    unhealthy_iff := failedStatus_eq_unhealthy_iff
    totalRequests := by rw [countP_isCall_concat, ← h.totalRequests]
    successfulRequests := by
      rw [List.countP_append, List.countP_singleton, ← h.successfulRequests]
      simp [isSuccess]
    successful_le_total := by simp only; omega
    lastSuccess := by rw [latest?_concat, h.lastSuccess]; rfl
    lastFailure := by simp [latest?_concat, isFailure]
    avgLatencyMs := by
      rw [List.filterMap_append]
      show r.avgLatencyMs = smoothedLatency (history.filterMap latency? ++ [])
      rw [List.append_nil, ← h.avgLatencyMs]
    smoothed := by
      rw [List.filterMap_append]
      show Smoothed (history.filterMap latency? ++ []) r.avgLatencyMs
      rw [List.append_nil]
      exact h.smoothed }

/-- Observing a whole history from the start gives the record that reflects it. -/
lemma reflects_foldl {threshold : Nat} (hpos : 0 < threshold) (history : List Observation) :
    Reflects threshold history (history.foldl (observe threshold) initial) := by
  induction history using List.reverseRecOn with
  | nil => exact reflects_initial hpos
  | append_singleton history o ih =>
    rw [List.foldl_append, List.foldl_cons, List.foldl_nil]
    obtain ⟨observer, wall, latency?⟩ := o
    cases latency? with
    | some latency => exact ih.observe_success hpos observer wall latency
    | none => exact ih.observe_failure observer wall

end HealthRecord

namespace Tracker

/-! ## The history of an index -/

/-- What an entry observes, and at which index. -/
def Entry.observed? (e : Entry) : Option (Nat × Observation) :=
  match e.deed with
  | .success index _ latency observer => some (index, ⟨observer, e.time.wall, some latency⟩)
  | .failure index _ observer => some (index, ⟨observer, e.time.wall, none⟩)
  | _ => none

/-- What an entry observes at an index. -/
def Entry.observation? (index : Nat) (e : Entry) : Option Observation :=
  e.observed?.bind fun (i, o) => if i = index then some o else none

/-- What an entry observes at an index is all that it observes. -/
lemma Entry.observed?_of_observation? {index : Nat} {e : Entry} {o : Observation}
    (h : e.observation? index = some o) : e.observed? = some (index, o) := by
  obtain ⟨⟨i, o'⟩, hobserved, hindex⟩ := Option.bind_eq_some_iff.mp h
  obtain ⟨rfl, rfl⟩ : i = index ∧ o' = o := by simpa using hindex
  exact hobserved

/-- What a log observes at an index. -/
def history (index : Nat) (log : Log) : List Observation := log.filterMap (Entry.observation? index)

/-- What an observed success does: the record takes it in, and a call closes the breaker. -/
lemma perform_success {t : Tracker} {index : Nat} {r : HealthRecord} (h : t.record? index = some r)
    (time : Reading) (endpoint : Endpoint) (latency : Duration) (observer : Observer) :
    t.perform ⟨time, .success index endpoint latency observer⟩ =
      ((t.setRecord index (r.observe t.threshold ⟨observer, time.wall, some latency⟩)).setBreakers
        (if observer = .call then t.breakers.erase endpoint.url else t.breakers), .noted none) := by
  simp only [perform, recordSuccess, h]
  cases observer <;> rfl

/-- What an observed failure does: the record takes it in, and if it is unhealthy after that, the
breaker opens unless the clock cannot show the end of that. -/
lemma perform_failure {t : Tracker} {index : Nat} {r : HealthRecord} (h : t.record? index = some r)
    (time : Reading) (endpoint : Endpoint) (observer : Observer) :
    t.perform ⟨time, .failure index endpoint observer⟩ =
      let failed := r.observe t.threshold ⟨observer, time.wall, none⟩
      if failed.status = .unhealthy then
        match time.instant.after? t.breakers.timeout with
        | none => (t.setRecord index failed, .noted (some .clockOverflow))
        | some endsAt =>
          ((t.setRecord index failed).setBreakers (t.breakers.insert endpoint.url endsAt),
            .noted none)
      else (t.setRecord index failed, .noted none) := by
  simp only [perform, recordFailure, h, BreakerTable.trip?]
  cases observer <;> cases time.instant.after? t.breakers.timeout <;>
    simp only [HealthRecord.observe] <;> split <;> simp_all

/-- Nothing is taken in at an index without a record. -/
lemma perform_of_record?_eq_none {t : Tracker} {e : Entry} {index : Nat} {o : Observation}
    (he : e.observed? = some (index, o)) (h : t.record? index = none) :
    t.perform e = (t, .noted none) := by
  obtain ⟨time, deed⟩ := e
  cases deed with
  | success i ep l ob =>
    obtain ⟨rfl, -⟩ := Prod.ext_iff.mp (Option.some.inj he)
    simp only [perform, recordSuccess]
    rw [h]
  | failure i ep ob =>
    obtain ⟨rfl, -⟩ := Prod.ext_iff.mp (Option.some.inj he)
    simp only [perform, recordFailure]
    rw [h]
  | judge i ep l => cases he
  | inquire ep => cases he
  | survey r => cases he

/-- Setting the record at an index leaves the others. -/
lemma records_setRecord {t : Tracker} {index : Nat} {r : HealthRecord}
    (h : t.record? index = some r) (f : HealthRecord → HealthRecord) :
    (t.setRecord index (f r)).records = t.records.modify index f := by
  have hget : t.records[index]? = some r := h
  apply List.ext_getElem?
  intro j
  simp only [setRecord, List.getElem?_set, List.getElem?_modify]
  by_cases hj : index = j
  · subst hj
    obtain ⟨hlt, hval⟩ := List.getElem?_eq_some_iff.mp hget
    simp [hlt, hval]
  · simp [hj]

/-- An observation changes the record of its index, and a question changes none. -/
lemma records_after (t : Tracker) (e : Entry) :
    (t.after e).records =
      match e.observed? with
      | some (index, o) => t.records.modify index fun r => r.observe t.threshold o
      | none => t.records := by
  cases he : e.observed? with
  | none =>
    obtain ⟨time, deed⟩ := e
    cases deed with
    | success i ep l ob => cases he
    | failure i ep ob => cases he
    | judge i ep l => rfl
    | inquire ep => rfl
    | survey r => exact statuses_records ..
  | some p =>
    obtain ⟨index, o⟩ := p
    cases hr : t.record? index with
    | none =>
      have hlen : t.records.length ≤ index := List.getElem?_eq_none_iff.mp hr
      rw [after, perform_of_record?_eq_none he hr]
      exact (List.modify_eq_self hlen).symm
    | some r =>
      dsimp only
      rw [← records_setRecord hr fun r => r.observe t.threshold o]
      obtain ⟨time, deed⟩ := e
      cases deed with
      | success i ep l ob =>
        obtain ⟨rfl, rfl⟩ := Prod.ext_iff.mp (Option.some.inj he)
        rw [after, perform_success hr]
        rfl
      | failure i ep ob =>
        obtain ⟨rfl, rfl⟩ := Prod.ext_iff.mp (Option.some.inj he)
        rw [after, perform_failure hr]
        dsimp only
        split
        · cases time.instant.after? t.breakers.timeout <;> rfl
        · rfl
      | judge i ep l => cases he
      | inquire ep => cases he
      | survey r => cases he

/-- An entry changes the record at an index only by what it observes there. -/
lemma record?_after (t : Tracker) (e : Entry) (index : Nat) :
    (t.after e).record? index =
      (t.record? index).map fun r =>
        ((e.observation? index).map (r.observe t.threshold)).getD r := by
  unfold record? Entry.observation?
  rw [records_after]
  cases e.observed? with
  | none => simp
  | some p =>
    obtain ⟨i, o⟩ := p
    rw [List.getElem?_modify]
    by_cases h : i = index <;> simp [h]

/-- The record at an index after a log is the record before it, after the history of the index. -/
lemma record?_replay (t : Tracker) (log : Log) (index : Nat) :
    (t.replay log).record? index =
      (t.record? index).map fun r =>
        (history index log).foldl (HealthRecord.observe t.threshold) r := by
  induction log generalizing t with
  | nil => simp [history]
  | cons e rest ih =>
    rw [replay_cons, ih, record?_after, after_threshold, Option.map_map]
    unfold history
    rw [List.filterMap_cons]
    cases e.observation? index <;> rfl

/-- A new tracker has the initial record for each endpoint. -/
lemma record?_new {count index : Nat} (threshold : UInt32) (timeout : Duration)
    (h : index < count) :
    (new count threshold timeout).record? index = some .initial := by
  simp [record?, new, h]

/-- The record of a new tracker after a log reflects the history of its index. -/
lemma reflects_replay_new {count index : Nat} (threshold : UInt32) (timeout : Duration)
    (h : index < count) (log : Log) :
    ((new count threshold timeout).replay log).record? index =
        some ((history index log).foldl (HealthRecord.observe (max threshold.toNat 1)) .initial) ∧
      ((history index log).foldl (HealthRecord.observe (max threshold.toNat 1)) .initial).Reflects
        (max threshold.toNat 1) (history index log) := by
  refine ⟨?_, HealthRecord.reflects_foldl (by omega) _⟩
  rw [record?_replay, record?_new threshold timeout h]
  rfl

/-- **Health records are functions of their histories.** After any log, the record at an index in
range has every field as the history of this index says, and two logs with the same history of an
index leave the same record there. -/
theorem record_determined_by_history (count : Nat) (threshold : UInt32) (timeout : Duration)
    (index : Nat) (hindex : index < count) (log : Log) :
    (∃ r, ((new count threshold timeout).replay log).record? index = some r ∧
      r.Reflects (max threshold.toNat 1) (history index log)) ∧
    ∀ other : Log, history index other = history index log →
      ((new count threshold timeout).replay other).record? index =
        ((new count threshold timeout).replay log).record? index := by
  obtain ⟨hrecord, hreflects⟩ := reflects_replay_new threshold timeout hindex log
  refine ⟨⟨_, hrecord, hreflects⟩, ?_⟩
  intro other hsame
  obtain ⟨hother, -⟩ := reflects_replay_new threshold timeout hindex other
  rw [hother, hrecord, hsame]

/-- Two failures around a probe success elsewhere, with a threshold of two: the endpoint is
unhealthy, and only the failed call counts as a request. -/
theorem record_determined_by_history_of_two_failures :
    1 < 2 ∧ ∃ r,
      ((new 2 2 .zero).replay
        [⟨default, .failure 1 default .call⟩, ⟨default, .success 0 default .zero .probe⟩,
          ⟨default, .inquire default⟩, ⟨default, .failure 1 default .probe⟩]).record? 1 = some r ∧
      r.status = .unhealthy ∧ r.consecutiveFailures = 2 ∧ r.totalRequests = 1 := by
  refine ⟨by decide, ?_⟩
  obtain ⟨⟨r, hr, h⟩, -⟩ := record_determined_by_history 2 2 .zero 1 (by decide)
    [⟨default, .failure 1 default .call⟩, ⟨default, .success 0 default .zero .probe⟩,
      ⟨default, .inquire default⟩, ⟨default, .failure 1 default .probe⟩]
  have hfailures : r.consecutiveFailures = 2 := h.consecutiveFailures
  refine ⟨r, hr, ?_, hfailures, h.totalRequests⟩
  rw [h.unhealthy_iff, hfailures]
  decide

end Tracker

end Failover
