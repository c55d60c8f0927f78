import Failover.Proofs.Retry.Deadline
import Failover.Proofs.Retry.Pauses
import Failover.Proofs.Traffic.Course
import Failover.Proofs.Traffic.Walk
import Mathlib.Algebra.BigOperators.Intervals
import Mathlib.Algebra.BigOperators.Ring.Finset
import Mathlib.Algebra.Order.BigOperators.Group.Finset
import Mathlib.Algebra.Order.BigOperators.Group.List
import Mathlib.Data.List.ModifyLast

/-!
# The visits of a call and the time they take

A call waits for the ends of its attempts and for the ends of its pauses, and for nothing else. What
it has waited for is read off the stages of its course: the visits that it has made (`Call.visits`),
each with the worlds in which its requests were sent and those in which its pauses began. So a visit
takes the spans of its attempts and the pauses between them (`Visit.time`), and no more than
`Setup.longestVisit`.
-/

namespace Failover

open Finset (sum_range_succ sum_range_zero)

variable {σ : Type}

/-! ## Limits -/

/-- The number of attempts that a visit to an endpoint may make. -/
def Setup.allowed (setup : Setup σ) (e : Endpoint) : Nat := (setup.policy.forEndpoint e).maxAttempts

/-- The milliseconds of the longest pause after attempt `attempt`. -/
def Setup.longestPause (setup : Setup σ) (attempt : Nat) : Nat :=
  (Backoff.delay attempt setup.policy.unit (Backoff.drawRange setup.policy.unit)).timerMillis

/-- The milliseconds that a visit to an endpoint takes at most. -/
def Setup.longestVisit (setup : Setup σ) (e : Endpoint) : Nat :=
  setup.allowed e * e.timeout.timerMillis +
    ∑ k ∈ Finset.range (setup.allowed e - 1), setup.longestPause k

variable {setup : Setup σ} {request : Rpc.Request}

/-- The timer of a longer span does not fire earlier. -/
lemma Duration.timerMillis_mono {d longer : Duration} (h : d.nanos ≤ longer.nanos) :
    d.timerMillis ≤ longer.timerMillis := by
  have hover := longer.isLeast_timerMillis.1
  exact d.isLeast_timerMillis.2 (h.trans hover)

/-- No draw gives a longer pause than one beyond the range. -/
lemma Setup.delay_le_longestPause (setup : Setup σ) (attempt draw : Nat) :
    (Backoff.delay attempt setup.policy.unit draw).timerMillis ≤ setup.longestPause attempt := by
  refine Duration.timerMillis_mono ?_
  rw [Backoff.nanos_delay, Backoff.nanos_delay, Backoff.nanos_jitter, Backoff.nanos_jitter]
  omega

/-! ## Visits -/

/-- A visit of a call to an endpoint: the worlds in which its requests were sent, and those in which
its pauses began. -/
structure Visit (σ : Type) where
  index : Nat
  endpoint : Endpoint
  sends : List (World σ)
  pauses : List (World σ)

namespace Visit

/-- The visit after one more request. -/
def send (w : World σ) (v : Visit σ) : Visit σ := { v with sends := v.sends ++ [w] }

/-- The visit after one more pause has begun. -/
def pause (w : World σ) (v : Visit σ) : Visit σ := { v with pauses := v.pauses ++ [w] }

/-- The answer that the transport gives to a request of the visit that is sent in a world. -/
def answer (setup : Setup σ) (request : Rpc.Request) (v : Visit σ) (w : World σ) : Rpc.Answer :=
  (setup.transport.send w.wire v.endpoint request).1

/-- The milliseconds that each attempt takes. -/
def spans (setup : Setup σ) (request : Rpc.Request) (v : Visit σ) : List Nat :=
  v.sends.map fun w => (v.answer setup request w).span v.endpoint.timeout

/-- The milliseconds that each pause takes, with the jitter that is drawn when it begins. -/
def rests (setup : Setup σ) (v : Visit σ) : List Nat :=
  v.pauses.mapIdx fun k w =>
    (Backoff.delay k setup.policy.unit (setup.draw w.drawn)).timerMillis

/-- The milliseconds that the visit takes: its attempts and the pauses between them. -/
def time (setup : Setup σ) (request : Rpc.Request) (v : Visit σ) : Nat :=
  (v.spans setup request).sum + (v.rests setup).sum

/-- The milliseconds that the attempts and pauses before an attempt take. -/
def timeBefore (setup : Setup σ) (request : Rpc.Request) (v : Visit σ) (attempt : Nat) : Nat :=
  ((v.spans setup request).take attempt).sum + ((v.rests setup).take attempt).sum

/-- What the visit sends. -/
def sendings (request : Rpc.Request) (v : Visit σ) : List Sending :=
  v.sends.map fun w => ⟨w.now, v.endpoint.url, request⟩

/-- The visit began at a time, and each of its requests was sent when the attempts and pauses before
it were over. -/
def Timed (setup : Setup σ) (request : Rpc.Request) (start : Nat) (v : Visit σ) : Prop :=
  ∀ k w, v.sends[k]? = some w → w.now = start + v.timeBefore setup request k

/-- There is a pause between each attempt and the next one, and none after the last. -/
def Finished (v : Visit σ) : Prop := v.sends.length = v.pauses.length + 1

variable {v : Visit σ} {w : World σ} {start attempt : Nat}

/-- One more request adds its span. -/
lemma spans_send (setup : Setup σ) (request : Rpc.Request) (v : Visit σ) (w : World σ) :
    (v.send w).spans setup request =
      v.spans setup request ++ [(v.answer setup request w).span v.endpoint.timeout] :=
  List.map_append

/-- One more pause adds its length. -/
lemma rests_pause (setup : Setup σ) (v : Visit σ) (w : World σ) :
    (v.pause w).rests setup = v.rests setup ++
      [(Backoff.delay v.pauses.length setup.policy.unit (setup.draw w.drawn)).timerMillis] :=
  List.mapIdx_concat

/-- There is a span for each request. -/
lemma length_spans (setup : Setup σ) (request : Rpc.Request) (v : Visit σ) :
    (v.spans setup request).length = v.sends.length := List.length_map _

/-- There is a length for each pause. -/
lemma length_rests (setup : Setup σ) (v : Visit σ) : (v.rests setup).length = v.pauses.length :=
  List.length_mapIdx

/-- One more request takes its span. -/
lemma time_send (setup : Setup σ) (request : Rpc.Request) (v : Visit σ) (w : World σ) :
    (v.send w).time setup request =
      v.time setup request + (v.answer setup request w).span v.endpoint.timeout := by
  have hrests : (v.send w).rests setup = v.rests setup := rfl
  unfold time
  rw [spans_send, hrests, List.sum_append, List.sum_singleton]
  omega

/-- One more pause takes its length. -/
lemma time_pause (setup : Setup σ) (request : Rpc.Request) (v : Visit σ) (w : World σ) :
    (v.pause w).time setup request = v.time setup request +
      (Backoff.delay v.pauses.length setup.policy.unit (setup.draw w.drawn)).timerMillis := by
  have hspans : (v.pause w).spans setup request = v.spans setup request := rfl
  unfold time
  rw [rests_pause, hspans, List.sum_append, List.sum_singleton]
  omega

/-- All the time of a visit is before an attempt that it has not made yet. -/
lemma timeBefore_eq_time (hsends : v.sends.length ≤ attempt) (hpauses : v.pauses.length ≤ attempt) :
    v.timeBefore setup request attempt = v.time setup request := by
  unfold timeBefore time
  rw [List.take_of_length_le (by rwa [length_spans]),
    List.take_of_length_le (by rwa [length_rests])]

/-- A request that is sent when everything before it is over keeps the visit in time. -/
lemma Timed.send (h : v.Timed setup request start) (hpauses : v.pauses.length = v.sends.length)
    (hnow : w.now = start + v.time setup request) : (v.send w).Timed setup request start := by
  have hbefore : ∀ k ≤ v.sends.length,
      (v.send w).timeBefore setup request k = v.timeBefore setup request k := by
    intro k hk
    have hrests : (v.send w).rests setup = v.rests setup := rfl
    unfold timeBefore
    rw [spans_send, hrests, List.take_append_of_le_length (by rwa [length_spans])]
  intro k u hu
  rcases Nat.lt_trichotomy k v.sends.length with hlt | rfl | hgt
  · rw [hbefore k hlt.le]
    exact h k u (by rwa [Visit.send, List.getElem?_append_left hlt] at hu)
  · rw [Visit.send, List.getElem?_concat_length] at hu
    cases hu
    rw [hbefore _ le_rfl, timeBefore_eq_time le_rfl hpauses.le, hnow]
  · rw [Visit.send, List.getElem?_eq_none (by simp; omega)] at hu
    cases hu

/-- A pause takes nothing from the attempts before it. -/
lemma Timed.pause (h : v.Timed setup request start) (hsends : v.sends.length ≤ v.pauses.length + 1)
    (w : World σ) : (v.pause w).Timed setup request start := by
  intro k u hu
  have hk : k < v.sends.length := (List.getElem?_eq_some_iff.mp hu).1
  have hspans : (v.pause w).spans setup request = v.spans setup request := rfl
  have hbefore : (v.pause w).timeBefore setup request k = v.timeBefore setup request k := by
    unfold timeBefore
    rw [rests_pause, hspans, List.take_append_of_le_length (by rw [length_rests]; omega)]
  rw [hbefore]
  exact h k u hu

/-- Each attempt takes until its answer arrives or its deadline is over, whichever comes first. -/
lemma coe_time (setup : Setup σ) (request : Rpc.Request) (v : Visit σ) :
    (v.time setup request : ℕ∞) =
      (v.sends.map fun w =>
        min (v.answer setup request w).arrival v.endpoint.timeout.timerMillis).sum +
      (v.rests setup).sum := by
  have hspans : (v.spans setup request).map (Nat.cast : ℕ → ℕ∞) = v.sends.map fun w =>
      min (v.answer setup request w).arrival v.endpoint.timeout.timerMillis := by
    rw [spans, List.map_map]
    exact List.map_congr_left fun w _ => Rpc.Answer.coe_span _ _
  rw [time, Nat.cast_add, Nat.cast_list_sum, hspans]

/-- No attempt takes longer than the deadline. -/
lemma time_le (setup : Setup σ) (request : Rpc.Request) (v : Visit σ) :
    v.time setup request ≤
      v.sends.length * v.endpoint.timeout.timerMillis + (v.rests setup).sum := by
  refine Nat.add_le_add_right ?_ _
  have hall := List.sum_le_card_nsmul (v.spans setup request) v.endpoint.timeout.timerMillis ?_
  · rwa [length_spans, Nat.nsmul_eq_mul] at hall
  · intro span hspan
    obtain ⟨w, -, rfl⟩ := List.mem_map.mp hspan
    exact Rpc.Answer.span_le _ _

/-- The pauses of a visit are no longer than the longest ones. -/
lemma sum_rests_le (setup : Setup σ) (v : Visit σ) :
    (v.rests setup).sum ≤ ∑ k ∈ Finset.range v.pauses.length, setup.longestPause k := by
  unfold rests
  generalize v.pauses = pauses
  induction pauses using List.reverseRecOn with
  | nil => exact le_rfl
  | append_singleton pauses w ih =>
    rw [List.mapIdx_concat, List.sum_append, List.sum_singleton, List.length_append,
      List.length_singleton, sum_range_succ]
    exact Nat.add_le_add ih (setup.delay_le_longestPause _ _)

/-- A visit within its budget takes no longer than the longest one. -/
lemma time_le_longestVisit (hsends : v.sends.length ≤ setup.allowed v.endpoint)
    (hpauses : v.pauses.length + 1 ≤ setup.allowed v.endpoint) :
    v.time setup request ≤ setup.longestVisit v.endpoint := by
  refine (time_le setup request v).trans (Nat.add_le_add (Nat.mul_le_mul_right _ hsends) ?_)
  refine (sum_rests_le setup v).trans ?_
  have hfewer : v.pauses.length ≤ setup.allowed v.endpoint - 1 := by omega
  exact Finset.sum_le_sum_of_subset (Finset.range_subset_range.mpr hfewer)

/-! ## Visits one after the other -/

/-- The milliseconds that visits take. -/
def total (setup : Setup σ) (request : Rpc.Request) (visits : List (Visit σ)) : Nat :=
  (visits.map (time setup request)).sum

/-- The first of the visits began at a time, and each of the others when the one before it was
over. -/
def Timetable (setup : Setup σ) (request : Rpc.Request) : Nat → List (Visit σ) → Prop
  | _, [] => True
  | start, v :: later =>
    v.Timed setup request start ∧ Timetable setup request (start + v.time setup request) later

/-- The visits go to endpoints up to an index, in registry order and to none of them twice. -/
def Placed (registry : Registry) (index : Nat) (visits : List (Visit σ)) : Prop :=
  (visits.map fun v => (v.endpoint, v.index)).Sublist (registry.endpoints.zipIdx.take index)

variable {visits : List (Visit σ)} {index : Nat}

/-- One more visit takes its time. -/
lemma total_concat (setup : Setup σ) (request : Rpc.Request) (visits : List (Visit σ))
    (v : Visit σ) :
    total setup request (visits ++ [v]) = total setup request visits + v.time setup request := by
  simp [total]

/-- One more pause in the last visit takes its length. -/
lemma total_pause (setup : Setup σ) (request : Rpc.Request) (visits : List (Visit σ))
    (v : Visit σ) (w : World σ) :
    total setup request (visits ++ [v.pause w]) = total setup request (visits ++ [v]) +
      (Backoff.delay v.pauses.length setup.policy.unit (setup.draw w.drawn)).timerMillis := by
  rw [total_concat, total_concat, time_pause, Nat.add_assoc]

/-- A visit that begins when the others are over keeps the timetable. -/
lemma Timetable.concat (h : Timetable setup request start visits)
    (hv : v.Timed setup request (start + total setup request visits)) :
    Timetable setup request start (visits ++ [v]) := by
  induction visits generalizing start with
  | nil => exact ⟨hv, trivial⟩
  | cons u visits ih =>
    have htotal : total setup request (u :: visits) =
        u.time setup request + total setup request visits := List.sum_cons
    refine ⟨h.1, ih h.2 ?_⟩
    rwa [htotal, ← Nat.add_assoc] at hv

/-- Passing over an endpoint keeps the visits in their places. -/
lemma Placed.skip (h : Placed setup.registry index visits) :
    Placed setup.registry (index + 1) visits :=
  h.trans (List.take_sublist_take_left (Nat.le_succ index))

/-- A visit to the next endpoint is in its place behind the others. -/
lemma Placed.concat (h : Placed setup.registry index visits)
    (hget : setup.registry.get? index = some v.endpoint) (hindex : v.index = index) :
    Placed setup.registry (index + 1) (visits ++ [v]) := by
  have hat : setup.registry.endpoints[index]? = some v.endpoint := hget
  have hnext : setup.registry.endpoints.zipIdx.take (index + 1) =
      setup.registry.endpoints.zipIdx.take index ++ [(v.endpoint, v.index)] := by
    rw [List.take_add_one, List.getElem?_zipIdx, hat, hindex]
    simp
  unfold Placed
  rw [hnext, List.map_append, List.map_singleton]
  exact h.append_right _

/-- What is bounded at each visit is bounded over all of them. -/
lemma Placed.sum_le (h : Placed setup.registry index visits) {f : Visit σ → Nat}
    {g : Endpoint → Nat} (hle : ∀ v ∈ visits, f v ≤ g v.endpoint) :
    (visits.map f).sum ≤ (setup.registry.endpoints.map g).sum := by
  have hsub : (visits.map fun v => g v.endpoint).Sublist (setup.registry.endpoints.map g) := by
    have hall := ((h.trans (List.take_sublist _ _)).map Prod.fst).map g
    rwa [List.zipIdx_map_fst, List.map_map, List.map_map] at hall
  exact (List.sum_le_sum hle).trans (hsub.sum_le_sum fun _ _ => Nat.zero_le _)

end Visit

/-! ## The visits of a course -/

/-- The visits after one more stage. A visit begins with the first request to its endpoint, and
after a pause it sends another one. -/
def Visit.extend (setup : Setup σ) (visits : List (Visit σ)) (x : Stage σ Call) : List (Visit σ) :=
  match x.task.phase, x.next.phase with
  | .looking index, .waiting .. =>
    match setup.registry.get? index with
    | some endpoint => visits ++ [send x.before ⟨index, endpoint, [], []⟩]
    | none => visits
  | .pausing .., .waiting .. => visits.modifyLast (send x.before)
  | .waiting .., .pausing .. => visits.modifyLast (pause x.before)
  | _, _ => visits

/-- The visits that a call has made in the stages of its course. -/
def Call.visits (setup : Setup σ) (stages : List (Stage σ Call)) : List (Visit σ) :=
  stages.foldl (Visit.extend setup) []

/-- One more stage extends the visits of a call. -/
lemma Call.visits_concat (setup : Setup σ) (stages : List (Stage σ Call)) (x : Stage σ Call) :
    visits setup (stages ++ [x]) = Visit.extend setup (visits setup stages) x := by
  rw [visits, List.foldl_concat, ← visits]

/-! ## The number of steps -/

namespace Call

/-- The number of steps that a call makes at most from its look at an index on. -/
def stepsFrom (setup : Setup σ) (index : Nat) : Nat :=
  1 + ((setup.registry.endpoints.drop index).map fun e => 2 * setup.allowed e + 2).sum

/-- The number of steps that a call makes at most from the end of an attempt at an index on. -/
def stepsFromAttempt (setup : Setup σ) (index attempt : Nat) : Nat :=
  2 * (((setup.registry.get? index).map setup.allowed).getD 0 - attempt) + 1 +
    stepsFrom setup (index + 1)

/-- The number of steps that a call has before it at most. -/
def stepsLeft (setup : Setup σ) (c : Call) : Nat :=
  match c.phase with
  | .looking index => stepsFrom setup index
  | .waiting index attempt _ _ => stepsFromAttempt setup index attempt
  | .pausing index attempt _ => stepsFromAttempt setup index attempt + 1
  | .ended _ => 0

/-- The steps from an endpoint on are those at it and those from the next one on. -/
lemma stepsFrom_of_get? {index : Nat} {endpoint : Endpoint}
    (hget : setup.registry.get? index = some endpoint) :
    stepsFrom setup index = 2 * setup.allowed endpoint + 2 + stepsFrom setup (index + 1) := by
  obtain ⟨hlt, hval⟩ := List.getElem?_eq_some_iff.mp hget
  unfold stepsFrom
  rw [List.drop_eq_getElem_cons hlt, hval, List.map_cons, List.sum_cons]
  omega

/-- Every step of a call is one of those that it had before it. -/
lemma stepsLeft_of_step? {c : Call} {w : World σ} {out : World σ × Call × Journal}
    (hstep : c.step? setup w = some out) : out.2.1.stepsLeft setup < c.stepsLeft setup := by
  have hpos : ∀ index attempt, 0 < stepsFromAttempt setup index attempt := by
    intro index attempt
    unfold stepsFromAttempt
    omega
  cases takes_of_step? hstep with
  | exhaust hphase =>
    simp only [stepsLeft, hphase, exhaust, stepsFrom]
    omega
  | skip hphase hget =>
    simp only [stepsLeft, hphase, stepsFrom_of_get? hget]
    omega
  | visit hphase hget =>
    simp only [stepsLeft, hphase, attempt, stepsFromAttempt, hget, Option.map_some,
      Option.getD_some, stepsFrom_of_get? hget]
    omega
  | crash hphase =>
    simp only [stepsLeft, hphase]
    exact hpos _ _
  | succeed hphase =>
    simp only [stepsLeft, hphase, succeed]
    exact hpos _ _
  | giveUp hphase =>
    unfold giveUp
    dsimp only
    split
    · simp only [stepsLeft, hphase]
      exact hpos _ _
    · simp only [stepsLeft, hphase, stepsFromAttempt]
      omega
  | pause hphase _ hget _ hleft =>
    simp only [stepsLeft, hphase, stepsFromAttempt, hget, Option.map_some, Option.getD_some,
      Setup.allowed]
    omega
  | resume hphase =>
    simp only [stepsLeft, hphase, attempt]
    exact Nat.lt_succ_self _

end Call

end Failover
