import Failover.Proofs.Tracker.LatestFailure
import Failover.Proofs.Traffic.Log
import Mathlib.Data.List.Basic

/-!
# What observations leave in the metrics

Whoever takes in an observation measures the status that the record has after it, under the display
name of the endpoint, and for a failure that leaves the record unhealthy it counts an opened breaker
as well (`Tracker.Deed.measured`). Nothing else in the program makes measurements of these two
kinds, so in what a move measures they are those of what it asks of the tracker
(`Traffic.filter_isOfTracker_of_next?`).
-/

namespace Failover

variable {σ : Type} {setup : Setup σ}

/-- Whether only observations make such a measurement: of a status or of an opened breaker. -/
def Measurement.isOfTracker : Measurement → Bool
  | .health .. | .breakerOpened _ => true
  | _ => false

/-! ## One observation -/

namespace Tracker.Deed

/-- What a deed that led to a tracker leaves in the metrics. -/
def measured (t : Tracker) : Deed → List Measurement
  | .success index endpoint _ _ => [.health endpoint.displayName (t.recordAt index).status]
  | .failure index endpoint _ =>
    (if (t.recordAt index).status = .unhealthy then [.breakerOpened endpoint.displayName]
      else []) ++
      [.health endpoint.displayName (t.recordAt index).status]
  | _ => []

/-- All that a deed measures is of the tracker. -/
lemma filter_isOfTracker_measured (t : Tracker) (deed : Deed) :
    (deed.measured t).filter Measurement.isOfTracker = deed.measured t := by
  cases deed with
  | failure index endpoint observer =>
    simp only [measured]
    split <;> rfl
  | success index endpoint latency observer => rfl
  | judge index endpoint isLast => rfl
  | inquire endpoint => rfl
  | survey registry => rfl

end Tracker.Deed

namespace World

variable (setup) {w : World σ} {index : Nat}

/-- Taking in a success measures the status after it. -/
lemma measurements_recordSuccess (hindex : index < w.tracker.records.length) (endpoint : Endpoint)
    (latency : Duration) (observer : Observer) :
    (w.recordSuccess setup index endpoint latency observer).2.measurements =
      (Tracker.Deed.success index endpoint latency observer).measured
        (w.recordSuccess setup index endpoint latency observer).1.tracker := by
  obtain ⟨r, hr⟩ := Tracker.record?_of_lt hindex
  have hafter : ((w.recordSuccess setup index endpoint latency observer).1.tracker.recordAt
      index).status = .healthy := by
    have hobserved : (⟨w.reading setup, .success index endpoint latency observer⟩ :
        Tracker.Entry).observation? index =
        some ⟨observer, (w.reading setup).wall, some latency⟩ := by
      simp [Tracker.Entry.observation?, Tracker.Entry.observed?]
    rw [recordSuccess_tracker, Tracker.recordAt_after_of_observation? hr hobserved]
    rfl
  rw [Tracker.Deed.measured, hafter]
  simp only [recordSuccess, Tracker.recordSuccess, hr]
  cases observer with
  | probe => rfl
  | call =>
    dsimp only
    rw [Journal.measurements_append]
    split <;> rfl

/-- Taking in a failure measures the status after it and counts an opened breaker if it left the
record unhealthy, unless this ends in a fault. -/
lemma measurements_recordFailure (hindex : index < w.tracker.records.length) (endpoint : Endpoint)
    (observer : Observer) (hfault : (w.recordFailure setup index endpoint observer).2.2 = none) :
    (w.recordFailure setup index endpoint observer).2.1.measurements =
      (Tracker.Deed.failure index endpoint observer).measured
        (w.recordFailure setup index endpoint observer).1.tracker := by
  obtain ⟨r, hr⟩ := Tracker.record?_of_lt hindex
  let failed := r.observe w.tracker.threshold ⟨observer, (w.reading setup).wall, none⟩
  have hafter :
      (w.recordFailure setup index endpoint observer).1.tracker.recordAt index = failed := by
    rw [recordFailure_tracker]
    exact Tracker.recordAt_after_failure hr ..
  rw [Tracker.Deed.measured, hafter]
  simp only [recordFailure, Tracker.recordFailure, hr] at hfault ⊢
  split at hfault
  case isTrue hstatus =>
    split at hfault
    case h_1 => cases hfault
    case h_2 =>
      rw [if_pos hstatus, if_pos (show failed.status = .unhealthy from hstatus)]
      rfl
  case isFalse hstatus =>
    rw [if_neg hstatus, if_neg (show failed.status ≠ .unhealthy from hstatus)]
    rfl

end World

/-! ## Steps -/

section Steps

variable {w : World σ} (hrecords : ∀ index < setup.registry.size, index < w.tracker.records.length)

include hrecords

/-- What a step of a call measures of statuses and breakers is what it observes. -/
lemma Call.filter_isOfTracker_of_takes {c : Call} {out : World σ × Call × Journal}
    (h : c.Takes setup w out)
    (hfaultless : w.tracker.Faultless ((c.deeds setup w).map (⟨w.reading setup, ·⟩))) :
    out.2.2.measurements.filter Measurement.isOfTracker =
      (c.deeds setup w).flatMap (Tracker.Deed.measured out.1.tracker) := by
  have hlt : ∀ index endpoint, setup.registry.get? index = some endpoint →
      index < w.tracker.records.length :=
    fun index _ hget => hrecords index (List.getElem?_eq_some_iff.mp hget).1
  cases h with
  | exhaust hphase hnone =>
    simp only [deeds, hphase, hnone, measurements_exhaust]
    rfl
  | skip hphase hget _ _ hmeasured =>
    simp only [deeds, hphase, hget, hmeasured]
    rfl
  | visit hphase hget _ _ _ hmeasured =>
    simp only [deeds, hphase, hget, Journal.measurements_append, hmeasured]
    rfl
  | crash hphase _ hget hending =>
    simp only [deeds, hphase, hget, hending]
    rfl
  | succeed hphase _ hget hending =>
    simp only [deeds, hphase, hget, hending, succeed_world, List.flatMap_singleton]
    rw [measurements_succeed, List.filter_append,
      World.measurements_recordSuccess setup (hlt _ _ hget),
      Tracker.Deed.filter_isOfTracker_measured]
    exact List.append_nil _
  | @giveUp index _ _ _ endpoint failure hphase _ hget hending hlast =>
    have hdeeds : c.deeds setup w = [.failure index endpoint .call] := by
      simp [deeds, hphase, hget, hending, Nat.not_lt.mpr hlast]
    rw [hdeeds] at hfaultless ⊢
    have hfault : (w.recordFailure setup index endpoint .call).2.2 = none := by
      rw [World.recordFailure_fault]
      exact hfaultless.1
    rw [giveUp_world, measurements_giveUp _ _ _ _ _ _ hfault, List.filter_append,
      World.measurements_recordFailure setup (hlt _ _ hget) _ _ hfault,
      Tracker.Deed.filter_isOfTracker_measured, List.flatMap_singleton]
    exact List.append_nil _
  | pause hphase _ hget hending hleft =>
    simp [deeds, hphase, hget, hending, hleft]
  | resume hphase =>
    simp only [deeds, hphase]
    rfl

/-- What a step of a probe measures of statuses and breakers is what it observes. -/
lemma Cycle.filter_isOfTracker_of_takes {c : Cycle} {index : Nat} {out : World σ × Cycle × Journal}
    (h : c.Takes setup w index out)
    (hfaultless : w.tracker.Faultless ((c.deeds setup w index).map (⟨w.reading setup, ·⟩))) :
    out.2.2.measurements.filter Measurement.isOfTracker =
      (c.deeds setup w index).flatMap (Tracker.Deed.measured out.1.tracker) := by
  have hlt : ∀ endpoint, setup.registry.get? index = some endpoint →
      index < w.tracker.records.length :=
    fun _ hget => hrecords index (List.getElem?_eq_some_iff.mp hget).1
  cases h with
  | send hphase hprobe hget =>
    simp only [deeds, hphase, hprobe, hget]
    rfl
  | crash hphase hprobe _ hget hending =>
    simp only [deeds, hphase, hprobe, hget, hending]
    rfl
  | succeed hphase hprobe _ hget hending houtcome hmeasured =>
    simp only [deeds, hphase, hprobe, hget, hending, houtcome, List.flatMap_singleton]
    rw [hmeasured, List.filter_append, World.measurements_recordSuccess setup (hlt _ hget),
      Tracker.Deed.filter_isOfTracker_measured]
    exact List.append_nil _
  | @fail probes _ _ endpoint _ _ _ hphase hprobe _ hget hending houtcome hfault hmeasured =>
    simp only [deeds, hphase, hprobe, hget, hending, houtcome, List.flatMap_singleton]
    rw [hmeasured, List.filter_append,
      World.measurements_recordFailure setup (hlt _ hget) _ _ hfault,
      Tracker.Deed.filter_isOfTracker_measured]
    exact List.append_nil _
  | @overflow probes _ _ endpoint _ _ f _ hphase hprobe _ hget hending houtcome hfault =>
    have hdeeds : c.deeds setup w index = [.failure index endpoint .probe] := by
      simp [deeds, hphase, hprobe, hget, hending, houtcome]
    rw [hdeeds] at hfaultless
    rw [World.recordFailure_fault, hfaultless.1] at hfault
    cases hfault

end Steps

/-- What a move measures of statuses and breakers is what it observes. -/
theorem Traffic.filter_isOfTracker_of_next? {s s' : Traffic σ} {m : Move σ} {notes : Journal}
    (h : s.next? setup m = some (s', notes))
    (hrecords : ∀ index < setup.registry.size, index < s.world.tracker.records.length)
    (hfaultless : s.world.tracker.Faultless (Beat.log setup ⟨s, m, s', notes⟩)) :
    notes.measurements.filter Measurement.isOfTracker =
      (Beat.deeds setup ⟨s, m, s', notes⟩).flatMap
        (Tracker.Deed.measured s'.world.tracker) := by
  cases m with
  | advance id =>
    obtain ⟨c, c', hc, hstep, -, -⟩ := next?_advance_eq_some h
    simp only [Beat.log, Beat.deeds, hc, Option.map_some, Option.getD_some] at hfaultless ⊢
    exact Call.filter_isOfTracker_of_takes hrecords (Call.takes_of_step? hstep) hfaultless
  | probe id index =>
    obtain ⟨c, c', hc, hstep, -, -⟩ := next?_probe_eq_some h
    simp only [Beat.log, Beat.deeds, hc, Option.map_some, Option.getD_some] at hfaultless ⊢
    exact Cycle.filter_isOfTracker_of_takes hrecords (Cycle.takes_of_stepAt? hstep) hfaultless
  | _ =>
    rw [(onlyEvents_of_next? h rfl).measurements, List.filter_nil, eq_comm, List.flatMap_eq_nil_iff]
    intro deed hdeed
    obtain rfl := Beat.deeds_of_not_isStep rfl hdeed
    rfl

end Failover
