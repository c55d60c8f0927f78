import Failover.Proofs.Tracker.Expiry
import Mathlib.Data.List.Perm.Basic

/-!
# Observations that commute

The order in which a tracker takes in what is observed of different endpoints at one instant does
not matter. Records are kept by index, so at different indices nothing gets in the way of anything.
Breakers are kept by URL: at different URLs they do not meet either, and probes that share a URL
leave its breaker alone or set it to the one instant that a timeout from now leads to, whoever comes
last. A call success among them would make the order matter, because it takes the breaker away.

Trackers are compared by what they hold (`Tracker.Coincides`), because the entries of two breaker
tables may stand in different orders. The proof is a diamond: two sightings that are `Apart` may be
swapped, trackers that hold the same do so after any further sightings, and any order comes about by
such swaps.
-/

namespace Failover

namespace Tracker

/-! ## Sightings -/

/-- What somebody sees of the endpoint at an index. A success has a latency, a failure has none. -/
structure Sighting where
  index : Nat
  endpoint : Endpoint
  observer : Observer
  latency? : Option Duration

namespace Sighting

/-- What a tracker is asked to take in. -/
def deed (s : Sighting) : Deed :=
  match s.latency? with
  | some latency => .success s.index s.endpoint latency s.observer
  | none => .failure s.index s.endpoint s.observer

/-- The entry of a sighting at a time. -/
def entry (time : Reading) (s : Sighting) : Entry := ⟨time, s.deed⟩

/-- The log of sightings at one time. -/
def log (time : Reading) (sightings : List Sighting) : Log := sightings.map (entry time)

/-- What a record takes in of a sighting at a time. -/
def observation (time : Reading) (s : Sighting) : Observation :=
  ⟨s.observer, time.wall, s.latency?⟩

/-- Two sightings are of different indices, and of different URLs unless they are probes. -/
def Apart (s u : Sighting) : Prop :=
  s.index ≠ u.index ∧
    (s.endpoint.url ≠ u.endpoint.url ∨ (s.observer = .probe ∧ u.observer = .probe))

instance (s u : Sighting) : Decidable (s.Apart u) := inferInstanceAs (Decidable (_ ∧ _))

/-- Being apart goes both ways. -/
lemma Apart.symm {s u : Sighting} (h : s.Apart u) : u.Apart s :=
  ⟨h.1.symm, h.2.imp Ne.symm And.symm⟩

/-- The entry of a sighting is observed at its index. -/
lemma observed?_entry (time : Reading) (s : Sighting) :
    (s.entry time).observed? = some (s.index, s.observation time) := by
  obtain ⟨index, endpoint, observer, latency?⟩ := s
  cases latency? <;> rfl

end Sighting

/-! ## What a sighting does -/

variable {t u : Tracker} {time : Reading} {s v : Sighting}

/-- A log of sightings is without fault when its first is, and the rest are after it. -/
lemma faultless_log_cons {rest : List Sighting} :
    t.Faultless (Sighting.log time (s :: rest)) ↔
      t.fault? (s.entry time) = none ∧
        (t.after (s.entry time)).Faultless (Sighting.log time rest) := Iff.rfl

/-- What a sighting makes of the breaker of its URL, if it changes anything: a call success takes
the entry away, and a failure after which the endpoint is unhealthy sets it, as far as the clock can
show the end. -/
def change? (t : Tracker) (time : Reading) (s : Sighting) : Option (Option Instant) :=
  (t.record? s.index).bind fun r =>
    match s.latency? with
    | some _ => if s.observer = .call then some none else none
    | none =>
      if (r.observe t.threshold ⟨s.observer, time.wall, none⟩).status = .unhealthy then
        (time.instant.after? t.breakers.timeout).map some
      else none

/-- A sighting changes the breaker of its URL and no other one. -/
lemma until?_after_sighting (t : Tracker) (time : Reading) (s : Sighting) (key : String) :
    (t.after (s.entry time)).breakers.until? key =
      if key = s.endpoint.url then (t.change? time s).getD (t.breakers.until? key)
      else t.breakers.until? key := by
  unfold change?
  cases hr : t.record? s.index with
  | none =>
    rw [after, perform_of_record?_eq_none (s.observed?_entry time) hr]
    simp
  | some r =>
    obtain ⟨index, endpoint, observer, latency?⟩ := s
    cases latency? with
    | some latency =>
      rw [after, Sighting.entry, Sighting.deed, perform_success hr]
      cases observer <;> simp [BreakerTable.until?_erase]
    | none =>
      rw [after, Sighting.entry, Sighting.deed, perform_failure hr]
      dsimp only [Option.bind_some]
      by_cases hstatus : (r.observe t.threshold ⟨observer, time.wall, none⟩).status = .unhealthy
      · rw [if_pos hstatus, if_pos hstatus]
        cases time.instant.after? t.breakers.timeout with
        | none => simp
        | some endsAt => simp [BreakerTable.until?_insert]
      · rw [if_neg hstatus, if_neg hstatus]
        simp

/-- Whatever a probe changes, it sets the breaker to end one timeout from now. -/
lemma change?_of_probe (hprobe : s.observer = .probe) {entry : Option Instant}
    (h : t.change? time s = some entry) : entry = time.instant.after? t.breakers.timeout := by
  obtain ⟨r, -, hchange⟩ := Option.bind_eq_some_iff.mp h
  cases hlatency : s.latency? with
  | some latency => simp [hlatency, hprobe] at hchange
  | none =>
    rw [hlatency] at hchange
    dsimp only at hchange
    split at hchange
    · obtain ⟨endsAt, hend, rfl⟩ := Option.map_eq_some_iff.mp hchange
      exact hend.symm
    · cases hchange

/-- What a sighting changes depends on the record of its own index only. -/
lemma change?_congr (hrecord : t.record? s.index = u.record? s.index)
    (hthreshold : t.threshold = u.threshold) (htimeout : t.breakers.timeout = u.breakers.timeout) :
    t.change? time s = u.change? time s := by
  unfold change?
  rw [hrecord, hthreshold, htimeout]

/-- So does whether it ends in a fault. -/
lemma fault?_congr (hrecord : t.record? s.index = u.record? s.index)
    (hthreshold : t.threshold = u.threshold) (htimeout : t.breakers.timeout = u.breakers.timeout) :
    t.fault? (s.entry time) = u.fault? (s.entry time) := by
  obtain ⟨index, endpoint, observer, latency?⟩ := s
  cases latency? with
  | some latency => rfl
  | none =>
    have hrecord : t.record? index = u.record? index := hrecord
    cases hr : u.record? index with
    | none =>
      unfold Tracker.fault? answer
      rw [perform_of_record?_eq_none rfl (hrecord.trans hr), perform_of_record?_eq_none rfl hr]
    | some r =>
      show t.fault? ⟨time, .failure index endpoint observer⟩ =
        u.fault? ⟨time, .failure index endpoint observer⟩
      rw [fault?_failure hr, fault?_failure (hrecord.trans hr), hthreshold, htimeout]

/-- A sighting leaves the records of other indices alone. -/
lemma record?_after_sighting (t : Tracker) (time : Reading) {s : Sighting} {index : Nat}
    (hne : index ≠ s.index) : (t.after (s.entry time)).record? index = t.record? index := by
  rw [record?_after, Entry.observation?, s.observed?_entry time]
  simp [hne.symm]

/-- Sightings of different indices change the same in either order. -/
lemma change?_after_sighting (hne : s.index ≠ v.index) :
    (t.after (v.entry time)).change? time s = t.change? time s :=
  change?_congr (record?_after_sighting t time hne) (after_threshold t _) (after_timeout t _)

/-- A sighting elsewhere does not change whether a sighting is a fault. -/
lemma fault?_after_sighting (hne : s.index ≠ v.index) :
    (t.after (v.entry time)).fault? (s.entry time) = t.fault? (s.entry time) :=
  fault?_congr (record?_after_sighting t time hne) (after_threshold t _) (after_timeout t _)

/-! ## Trackers that hold the same -/

/-- Two trackers hold the same records and the same breakers, each with the same end. -/
structure Coincides (t u : Tracker) : Prop extends t.Alike u where
  until? : ∀ key, t.breakers.until? key = u.breakers.until? key

namespace Coincides

/-- A tracker coincides with itself. -/
lemma refl (t : Tracker) : t.Coincides t := ⟨.refl t, fun _ => rfl⟩

/-- Coincidence of trackers is transitive. -/
lemma trans {t u v : Tracker} (h : t.Coincides u) (h' : u.Coincides v) : t.Coincides v :=
  ⟨h.toAlike.trans h'.toAlike, fun key => (h.until? key).trans (h'.until? key)⟩

/-- Trackers that coincide have the same records. -/
lemma record? (h : t.Coincides u) (index : Nat) : t.record? index = u.record? index := by
  unfold Tracker.record?
  rw [h.records]

/-- Trackers that hold the same do so after a sighting. -/
lemma after_sighting (h : t.Coincides u) (time : Reading) (s : Sighting) :
    (t.after (s.entry time)).Coincides (u.after (s.entry time)) where
  toAlike := h.toAlike.after _
  until? := by
    intro key
    rw [until?_after_sighting, until?_after_sighting, h.until? key,
      change?_congr (h.record? s.index) h.threshold h.timeout]

/-- They do so after any sightings, and these end in a fault for both or for none. -/
lemma replay_log (h : t.Coincides u) (time : Reading) (sightings : List Sighting) :
    (t.replay (Sighting.log time sightings)).Coincides
        (u.replay (Sighting.log time sightings)) ∧
      (t.Faultless (Sighting.log time sightings) ↔ u.Faultless (Sighting.log time sightings)) := by
  induction sightings generalizing t u with
  | nil => exact ⟨h, Iff.rfl⟩
  | cons s rest ih =>
    obtain ⟨hreplay, hfaultless⟩ := ih (h.after_sighting time s)
    refine ⟨hreplay, ?_⟩
    rw [faultless_log_cons, faultless_log_cons, hfaultless,
      fault?_congr (h.record? s.index) h.threshold h.timeout]

end Coincides

/-! ## Swapping -/

/-- Two sightings that are apart may be swapped. -/
lemma coincides_swap (hapart : s.Apart v) (t : Tracker) (time : Reading) :
    ((t.after (s.entry time)).after (v.entry time)).Coincides
      ((t.after (v.entry time)).after (s.entry time)) where
  records := by
    simp only [records_after, Sighting.observed?_entry, after_threshold]
    exact List.modify_modify_ne _ _ _ hapart.1
  threshold := by simp only [after_threshold]
  timeout := by simp only [after_timeout]
  until? := by
    obtain ⟨hindex, hurl⟩ := hapart
    intro key
    simp only [until?_after_sighting, change?_after_sighting hindex,
      change?_after_sighting hindex.symm]
    by_cases hs : key = s.endpoint.url
    · by_cases hv : key = v.endpoint.url
      · rw [if_pos hs, if_pos hv, if_pos hs, if_pos hv]
        obtain ⟨hsprobe, hvprobe⟩ := hurl.resolve_left fun hne => hne (hs.symm.trans hv)
        cases hcs : t.change? time s with
        | none => rfl
        | some a =>
          cases hcv : t.change? time v with
          | none => rfl
          | some b =>
            exact (change?_of_probe hvprobe hcv).trans (change?_of_probe hsprobe hcs).symm
      · simp only [if_pos hs, if_neg hv]
    · simp only [if_neg hs]

/-- **Observations of different endpoints commute.** Let any two of the sightings at one time be of
different indices and, unless both are probes, of different URLs. Then the tracker holds the same
records and the same breakers after them in whatever order they come, and in no order one of them
ends in a fault if in another order none does. -/
theorem sightings_commute (t : Tracker) (time : Reading) {sightings reordered : List Sighting}
    (hapart : sightings.Pairwise Sighting.Apart) (hperm : reordered.Perm sightings) :
    (t.replay (Sighting.log time reordered)).Coincides
        (t.replay (Sighting.log time sightings)) ∧
      (t.Faultless (Sighting.log time reordered) ↔ t.Faultless (Sighting.log time sightings)) := by
  induction hperm generalizing t with
  | nil => exact ⟨.refl t, Iff.rfl⟩
  | cons s _ ih =>
    obtain ⟨-, hrest⟩ := List.pairwise_cons.mp hapart
    obtain ⟨hcoincides, hfaultless⟩ := ih (t.after (s.entry time)) hrest
    exact ⟨hcoincides, and_congr_right fun _ => hfaultless⟩
  | swap s v rest =>
    have hsv : s.Apart v := (List.pairwise_cons.mp hapart).1 v List.mem_cons_self
    obtain ⟨hcoincides, hfaultless⟩ := (coincides_swap hsv.symm t time).replay_log time rest
    refine ⟨hcoincides, ?_⟩
    simp only [faultless_log_cons, fault?_after_sighting hsv.1, fault?_after_sighting hsv.1.symm,
      hfaultless]
    exact and_left_comm
  | trans hfirst hsecond ih ih' =>
    have hmiddle := (hsecond.pairwise_iff Sighting.Apart.symm).mpr hapart
    obtain ⟨hcoincides, hfaultless⟩ := ih t hmiddle
    obtain ⟨hcoincides', hfaultless'⟩ := ih' t hapart
    exact ⟨hcoincides.trans hcoincides', hfaultless.trans hfaultless'⟩

/-- Two probes of one URL fail and a call to another one succeeds. The other way around this leaves
the same behind, and the breaker that both probes trip is open. -/
theorem sightings_commute_at_shared_url :
    let a := Endpoint.ofConfig (.ofUrl "http://a")
    let time := Clock.standard.origin
    let start := new 3 1 (.ofNanos 10)
    let sightings : List Sighting :=
      [⟨0, a, .probe, none⟩, ⟨1, a, .probe, none⟩,
        ⟨2, .ofConfig (.ofUrl "http://b"), .call, some .zero⟩]
    sightings.Pairwise Sighting.Apart ∧ sightings.reverse.Perm sightings ∧
      (start.replay (Sighting.log time sightings.reverse)).records =
        (start.replay (Sighting.log time sightings)).records ∧
      (start.replay (Sighting.log time sightings.reverse)).breakers.until? a.url =
        time.instant.after? (.ofNanos 10) := by
  intro a time start sightings
  have hapart : sightings.Pairwise Sighting.Apart := by decide
  have hperm : sightings.reverse.Perm sightings := sightings.reverse_perm
  obtain ⟨hcoincides, -⟩ := sightings_commute start time hapart hperm
  refine ⟨hapart, hperm, hcoincides.records, ?_⟩
  rw [hcoincides.until?]
  decide

example :
    let a := Endpoint.ofConfig (.ofUrl "http://a")
    let start := new 2 1 (.ofNanos 10)
    let failed : Sighting := ⟨0, a, .probe, none⟩
    let served : Sighting := ⟨1, a, .call, some .zero⟩
    (start.replay (Sighting.log default [served, failed])).breakers.until? a.url ≠
      (start.replay (Sighting.log default [failed, served])).breakers.until? a.url := by
  decide

end Tracker

end Failover
