import Failover.Journal.Measurement
import Mathlib.Data.List.Induction
import Mathlib.Tactic.Common

/-!
# What the metrics show

The metrics are a fold over measurements. Here they are read off the measurements directly: a series
that counts shows how often its measurement was made, and is absent if it never was
(`Metrics.value?_ofMeasurements_of_counts`), and the health gauge of a name shows the status that
was measured last (`Metrics.value?_ofMeasurements_health`). Both rest on one fact about the fold,
that a measurement changes the value of its own series and no other.
-/

namespace Failover

/-- The value of a counter after so many events. A counter without an event is absent. -/
def Reckoning.counted (n : Nat) : Option Reckoning := if n = 0 then none else some (.counter n)

/-- The two outcomes have different labels. -/
lemma outcomeLabel_inj {a b : Bool} : outcomeLabel a = outcomeLabel b ↔ a = b := by
  cases a <;> cases b <;> decide

/-- The ends of a call have different labels. -/
lemma CallEnd.label_inj {a b : CallEnd} : a.label = b.label ↔ a = b := by
  cases a <;> cases b <;> decide

/-- The grounds for a visit or a skip have different labels. -/
lemma Eligibility.label_inj {a b : Eligibility} : a.label = b.label ↔ a = b := by
  cases a <;> cases b <;> decide

namespace Measurement

/-- Whether a measurement stands for one event, so that its series is a counter. -/
def counts : Measurement → Bool
  | .callDuration .. | .health .. => false
  | _ => true

/-- The status that a measurement shows on the health gauge of a name. -/
def health? (name : String) : Measurement → Option HealthStatus
  | .health endpoint status => if endpoint = name then some status else none
  | _ => none

/-- Measurements that count are told apart by their series. -/
lemma series_eq_iff_of_counts {m other : Measurement} (hm : m.counts = true) :
    other.series = m.series ↔ other = m := by
  cases m with
  | callDuration method seconds => cases hm
  | health endpoint status => cases hm
  | call method ending => cases other <;> simp [series, CallEnd.label_inj]
  | attempt endpoint succeeded => cases other <;> simp [series, outcomeLabel_inj]
  | skip endpoint reason => cases other <;> simp [series, Eligibility.label_inj]
  | breakerOpened endpoint => cases other <;> simp [series]
  | probe endpoint succeeded => cases other <;> simp [series, outcomeLabel_inj]

/-- One more event adds one to its counter. -/
lemma update_counted {m : Measurement} (hm : m.counts = true) (n : Nat) :
    some (m.update (Reckoning.counted n)) = Reckoning.counted (n + 1) := by
  cases m with
  | callDuration method seconds => cases hm
  | health endpoint status => cases hm
  | call method ending => cases n <;> rfl
  | attempt endpoint succeeded => cases n <;> rfl
  | skip endpoint reason => cases n <;> rfl
  | breakerOpened endpoint => cases n <;> rfl
  | probe endpoint succeeded => cases n <;> rfl

/-- A measurement shows on the health gauge of a name exactly if it belongs to its series. -/
lemma health?_eq_none_iff {m : Measurement} {name : String} {status : HealthStatus} :
    m.health? name = none ↔ m.series ≠ (health name status).series := by
  cases m with
  | health endpoint other =>
    by_cases hname : endpoint = name <;> simp [health?, series, hname]
  | call method ending => simp [health?, series]
  | callDuration method seconds => simp [health?, series]
  | attempt endpoint succeeded => simp [health?, series]
  | skip endpoint reason => simp [health?, series]
  | breakerOpened endpoint => simp [health?, series]
  | probe endpoint succeeded => simp [health?, series]

/-- A measurement of the health sets its gauge, whatever stood there. -/
lemma update_of_health? {m : Measurement} {name : String} {status : HealthStatus}
    (h : m.health? name = some status) (old : Option Reckoning) :
    m.update old = .gauge status.gauge := by
  cases m with
  | health endpoint other =>
    obtain ⟨-, rfl⟩ : endpoint = name ∧ other = status := by simpa [health?] using h
    rfl
  | call method ending => cases h
  | callDuration method seconds => cases h
  | attempt endpoint succeeded => cases h
  | skip endpoint reason => cases h
  | breakerOpened endpoint => cases h
  | probe endpoint succeeded => cases h

end Measurement

namespace Metrics

/-- The values of other series stay when a series is taken away. -/
lemma lookup_filter_ne (ms : Metrics) {s other : Series} (h : s ≠ other) :
    (ms.filter fun entry => entry.1 ≠ other).lookup s = ms.lookup s := by
  induction ms with
  | nil => rfl
  | cons entry rest ih =>
    obtain ⟨t, value⟩ := entry
    by_cases ht : t = other
    · subst ht
      have hne : (s == t) = false := beq_eq_false_iff_ne.mpr h
      simp [List.lookup_cons, hne, ← ih]
    · rw [List.filter_cons_of_pos (by simpa using ht), List.lookup_cons, List.lookup_cons, ih]

/-- A measurement changes the value of its own series and no other. -/
lemma value?_record (ms : Metrics) (m : Measurement) (s : Series) :
    (ms.record m).value? s =
      if m.series = s then some (m.update (ms.value? s)) else ms.value? s := by
  unfold record value?
  rw [List.lookup_cons]
  by_cases hs : m.series = s
  · subst hs
    simp
  · have hne : (s == m.series) = false := beq_eq_false_iff_ne.mpr (Ne.symm hs)
    rw [if_neg hs, hne]
    exact lookup_filter_ne ms (Ne.symm hs)

/-- One more measurement is recorded on top of those before it. -/
lemma ofMeasurements_concat (l : List Measurement) (m : Measurement) :
    ofMeasurements (l ++ [m]) = (ofMeasurements l).record m := by
  unfold ofMeasurements
  rw [List.foldl_append, List.foldl_cons, List.foldl_nil]

/-- A counter shows how often its measurement was made. -/
theorem value?_ofMeasurements_of_counts {m : Measurement} (hm : m.counts = true)
    (l : List Measurement) :
    (ofMeasurements l).value? m.series = Reckoning.counted (l.count m) := by
  induction l using List.reverseRecOn with
  | nil => rfl
  | append_singleton l other ih =>
    rw [ofMeasurements_concat, value?_record, ih, List.count_append]
    by_cases hother : other = m
    · subst hother
      rw [if_pos rfl, Measurement.update_counted hm, List.count_singleton_self]
    · have hseries : other.series ≠ m.series :=
        fun h => hother ((Measurement.series_eq_iff_of_counts hm).mp h)
      rw [if_neg hseries, List.count_singleton]
      simp [hother]

/-- The health gauge of a name shows the status that was measured last. -/
theorem value?_ofMeasurements_health (name : String) (status : HealthStatus)
    (l : List Measurement) :
    (ofMeasurements l).value? (Measurement.health name status).series =
      (l.filterMap (Measurement.health? name)).getLast?.map fun s => .gauge s.gauge := by
  induction l using List.reverseRecOn with
  | nil => rfl
  | append_singleton l m ih =>
    rw [ofMeasurements_concat, value?_record, ih, List.filterMap_append]
    cases hm : m.health? name with
    | none =>
      rw [if_neg (Measurement.health?_eq_none_iff.mp hm)]
      simp [hm]
    | some measured =>
      have hseries : m.series = (Measurement.health name status).series := by
        by_contra hne
        exact absurd (hm.symm.trans (Measurement.health?_eq_none_iff.mpr hne)) nofun
      rw [if_pos hseries, Measurement.update_of_health? hm]
      simp [hm]

end Metrics

end Failover
