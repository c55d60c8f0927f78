import Failover.Proofs.Journal.Metrics
import Failover.Proofs.Tracker.LatestFailure
import Failover.Proofs.Traffic.Itinerary
import Failover.Proofs.Traffic.Observed
import Mathlib.Data.Finset.Filter
import Mathlib.Data.Finset.Range

/-!
# The health gauge

Whoever takes in an observation measures the status that the record has after it, under the display
name of the endpoint (`Tracker.Deed.shows?`). Nothing else touches the gauge of a name. So as long
as no other endpoint has this name, its gauge follows the record: it is absent before the first
observation and shows the present status ever after (`Traffic.Run.getLast?_health`).
-/

namespace Failover

variable {σ : Type} {setup : Setup σ}

/-- Each status has its own code on a gauge. -/
inductive HealthStatus.Code : HealthStatus → Float → Prop
  | unknown : Code .unknown 0.0
  | healthy : Code .healthy 1.0
  | degraded : Code .degraded 2.0
  | unhealthy : Code .unhealthy 3.0

/-- What is shown for a status is its code. -/
lemma HealthStatus.code_gauge (s : HealthStatus) : s.Code s.gauge := by
  cases s with
  | unknown => exact gauge_unknown ▸ .unknown
  | healthy => exact gauge_healthy ▸ .healthy
  | degraded => exact gauge_degraded ▸ .degraded
  | unhealthy => exact gauge_unhealthy ▸ .unhealthy

/-! ## One observation -/

/-- What the health gauge of a name shows after a deed that led to a tracker: the status of the
record that was observed, if its endpoint has this name. -/
def Tracker.Deed.shows? (name : String) (t : Tracker) : Deed → Option HealthStatus
  | .success index endpoint _ _ =>
    if endpoint.displayName = name then some (t.recordAt index).status else none
  | .failure index endpoint _ =>
    if endpoint.displayName = name then some (t.recordAt index).status else none
  | _ => none

/-- Of what a deed measures, the gauge of a name shows the status. -/
lemma Tracker.Deed.filterMap_health?_measured (name : String) (t : Tracker) (deed : Deed) :
    (deed.measured t).filterMap (Measurement.health? name) = (deed.shows? name t).toList := by
  cases deed with
  | success index endpoint latency observer =>
    by_cases hname : endpoint.displayName = name <;>
      simp [measured, shows?, Measurement.health?, hname]
  | failure index endpoint observer =>
    by_cases hname : endpoint.displayName = name <;>
      by_cases hstatus : (t.recordAt index).status = .unhealthy <;>
      simp [List.filterMap_cons, measured, shows?, Measurement.health?, hname, hstatus]
  | judge index endpoint isLast => rfl
  | inquire endpoint => rfl
  | survey registry => rfl

/-- What a move shows on the gauge of a name is what it observes under this name. -/
lemma Traffic.health?_of_next? {s s' : Traffic σ} {m : Move σ} {notes : Journal} {name : String}
    (h : s.next? setup m = some (s', notes))
    (hrecords : ∀ index < setup.registry.size, index < s.world.tracker.records.length)
    (hfaultless : s.world.tracker.Faultless (Beat.log setup ⟨s, m, s', notes⟩)) :
    notes.measurements.filterMap (Measurement.health? name) =
      (Beat.deeds setup ⟨s, m, s', notes⟩).filterMap
        (Tracker.Deed.shows? name s'.world.tracker) := by
  have hkept : (notes.measurements.filter Measurement.isOfTracker).filterMap
      (Measurement.health? name) = notes.measurements.filterMap (Measurement.health? name) := by
    rw [List.filterMap_filter]
    refine List.filterMap_congr ?_
    intro measurement _
    cases measurement <;> rfl
  rw [← hkept, filter_isOfTracker_of_next? h hrecords hfaultless, List.filterMap_flatMap,
    List.filterMap_eq_flatMap_toList]
  exact List.flatMap_congr fun deed _ => deed.filterMap_health?_measured name _

/-! ## The gauge of a name that only one endpoint has -/

/-- The indices of the endpoints with a display name. -/
def Registry.named (registry : Registry) (name : String) : Finset Nat :=
  (Finset.range registry.size).filter fun index =>
    (registry.get? index).any fun e => e.displayName = name

/-- The indices of a name are indices of the registry. -/
lemma Registry.lt_size_of_mem_named {registry : Registry} {name : String} {index : Nat}
    (h : index ∈ registry.named name) : index < registry.size :=
  Finset.mem_range.mp (Finset.mem_filter.mp h).1

/-- An index is among those of a name exactly if its endpoint has this name. -/
lemma Registry.mem_named_iff {registry : Registry} {index : Nat} {endpoint : Endpoint}
    (hget : registry.get? index = some endpoint) (name : String) :
    index ∈ registry.named name ↔ endpoint.displayName = name := by
  have hlt : index < registry.size := (List.getElem?_eq_some_iff.mp hget).1
  simp [named, hget, hlt]

/-- What is observed under the name of a single endpoint is observed at its index. -/
lemma Tracker.Deed.shows?_of_named {registry : Registry} {name : String} {index : Nat}
    (hnamed : registry.named name = {index}) {deed : Deed} (hfits : deed.Fits registry)
    (time : Reading) (t : Tracker) :
    deed.shows? name t =
      ((⟨time, deed⟩ : Entry).observation? index).map fun _ => (t.recordAt index).status := by
  have hname : ∀ i endpoint, registry.get? i = some endpoint →
      (endpoint.displayName = name ↔ i = index) := by
    intro i endpoint hget
    rw [← Registry.mem_named_iff hget, hnamed, Finset.mem_singleton]
  cases deed with
  | success i endpoint latency observer =>
    by_cases hi : i = index <;>
      simp [shows?, Entry.observation?, Entry.observed?, hname i endpoint hfits, hi]
  | failure i endpoint observer =>
    by_cases hi : i = index <;>
      simp [shows?, Entry.observation?, Entry.observed?, hname i endpoint hfits, hi]
  | judge i endpoint isLast => rfl
  | inquire endpoint => rfl
  | survey registry => rfl

namespace Traffic

variable {start s : Traffic σ} {beats : List (Beat σ)} {name : String} {index : Nat}

/-- The last status that was shown under the name of a single endpoint is its present one, and none
was shown before its first observation. -/
theorem Run.getLast?_health (hrun : Run setup start beats s) {threshold : UInt32}
    {timeout : Duration} (hfresh : start.world.tracker = .new setup.registry.size threshold timeout)
    (hfaultless : start.world.tracker.Faultless (log setup beats))
    (hnamed : setup.registry.named name = {index}) :
    ((Traffic.notes beats).measurements.filterMap (Measurement.health? name)).getLast? =
      if Tracker.history index (log setup beats) = [] then none
      else some (s.world.tracker.recordAt index).status := by
  induction hrun with
  | nil => rfl
  | @snoc beats s m s' notes hrun hnext ih =>
    rw [log_concat] at hfaultless ⊢
    obtain ⟨hpast, hlast⟩ := Tracker.faultless_append.mp hfaultless
    rw [← hrun.tracker] at hlast
    have hrecords : ∀ i < setup.registry.size, i < s.world.tracker.records.length := by
      intro i hi
      rw [hrun.tracker, hfresh]
      exact Tracker.lt_length_records_replay_new _ _ hi _
    let b : Beat σ := ⟨s, m, s', notes⟩
    have hshown : notes.measurements.filterMap (Measurement.health? name) =
        (Tracker.history index (b.log setup)).map
          fun _ => (s'.world.tracker.recordAt index).status := by
      rw [health?_of_next? hnext hrecords hlast, Tracker.history, Beat.log, List.filterMap_map,
        List.map_filterMap]
      refine List.filterMap_congr ?_
      intro deed hdeed
      exact Tracker.Deed.shows?_of_named hnamed
        (fits_log setup [b] ⟨b.before.reading setup, deed⟩ (by simp [log, Beat.log, b, hdeed])) _ _
    have happend : Tracker.history index (log setup beats ++ b.log setup) =
        Tracker.history index (log setup beats) ++ Tracker.history index (b.log setup) :=
      List.filterMap_append
    rw [notes_concat, Journal.measurements_append, List.filterMap_append, List.getLast?_append,
      ih hpast, hshown, happend, List.getLast?_map]
    cases hb : Tracker.history index (b.log setup) with
    | nil =>
      have hsame : s'.world.tracker.recordAt index = s.world.tracker.recordAt index := by
        rw [tracker_of_next? hnext, Tracker.recordAt, Tracker.record?_replay, hb]
        simp [Tracker.recordAt]
      simp [hsame]
    | cons o rest => simp [List.getLast?_cons]

end Traffic

end Failover
