import Failover.Proofs.Journal.Metrics
import Failover.Proofs.Traffic.Bookkeeping

/-!
# The accounts of calls

A call measures each endpoint that it gave up or had its value from, each that it passed over, and
its own end. `Call.account` says which measurements these have to be, from the itinerary and the
result of the call alone, and `Traffic.Run.account` finds exactly them in the journal of its steps,
in the same order. Nothing but a call makes such a measurement, so how often one was made in a run
is a sum over the accounts of its calls (`Traffic.Run.count_measurements`).
-/

namespace Failover

variable {σ : Type} {setup : Setup σ}

/-! ## Measurements of calls -/

/-- What is measured of a call is counted. -/
lemma Measurement.counts_of_isOfCall {m : Measurement} (h : m.isOfCall = true) :
    m.counts = true := by
  cases m with
  | callDuration => cases h
  | health => cases h
  | breakerOpened => cases h
  | probe => cases h
  | call => rfl
  | attempt => rfl
  | skip => rfl

/-! ## The account of a call -/

namespace Stop

/-- The verdict on the endpoint when a call reached it. -/
def verdict (setup : Setup σ) (stop : Stop σ) : Eligibility :=
  (stop.reached.eligibility setup stop.index stop.endpoint).1

/-- What a call measures at a stop that is over. -/
def outcome (setup : Setup σ) (request : Rpc.Request) (stop : Stop σ) : Measurement :=
  if stop.isVisit then .attempt stop.endpoint.displayName (stop.value? setup request).isSome
  else .skip stop.endpoint.displayName (stop.verdict setup)

/-- The outcome of a visit says whether its last attempt brought a value. -/
lemma outcome_of_sends (setup : Setup σ) {stop : Stop σ} {past : List (World σ)} {w : World σ}
    (h : stop.sends = past ++ [w]) (request : Rpc.Request) :
    stop.outcome setup request =
      .attempt stop.endpoint.displayName (w.value? setup stop.endpoint request).isSome := by
  rw [outcome, if_pos (isVisit_of_sends h), value?, h, List.getLast?_concat, Option.bind_some]

/-- A stop is a visit exactly if the verdict allows it. -/
lemma isVisit_eq_allows {stop : Stop σ} (h : stop.sends = [] ↔ stop.Excluded setup) :
    stop.isVisit = (stop.verdict setup).allows := by
  have hallows : (stop.verdict setup).allows = true ↔ ¬ stop.Excluded setup := stop.allows_iff
  rw [Bool.eq_iff_iff, hallows, ← h]
  simp [isVisit]

end Stop

/-- A call measures this at an endpoint exactly if it leaves it without a value: one failed attempt,
or one skip. -/
def Endpoint.PassedBy (e : Endpoint) (m : Measurement) : Prop :=
  m = .attempt e.displayName false ∨
    ∃ reason : Eligibility, reason.allows = false ∧ m = .skip e.displayName reason

/-- The stops at all endpoints are at the endpoints of the registry in order. -/
lemma Itinerary.Reached.endpoints_eq {stops : Itinerary σ} (h : stops.Reached setup)
    (hlength : stops.length = setup.registry.size) :
    setup.registry.endpoints = stops.map Stop.endpoint := by
  refine List.ext_getElem? fun i => ?_
  by_cases hi : i < stops.length
  · have hindex : stops[i].index = i := by
      have hnth := congrArg (fun l => l[i]?) h.indices
      simpa [hi] using hnth
    have hget := h.endpoints stops[i] (List.getElem_mem hi)
    rw [hindex] at hget
    rw [List.getElem?_map, List.getElem?_eq_getElem hi]
    exact hget
  · have hle : setup.registry.endpoints.length ≤ i :=
      Nat.le_trans (Nat.le_of_eq hlength.symm) (Nat.le_of_not_lt hi)
    rw [List.getElem?_eq_none hle, List.getElem?_map,
      List.getElem?_eq_none (Nat.le_of_not_lt hi)]
    rfl

namespace Call

open Itinerary

/-- How a call ended that returned to its caller. -/
def ending? (c : Call) : Option CallEnd :=
  match c.phase with
  | .ended (.value _) => some .success
  | .ended (.error (.exhausted _ _)) => some .exhausted
  | _ => none

/-- The stops of a call that are over: all of them, unless it is still on a visit. -/
def stopsOver (c : Call) (stops : Itinerary σ) : Itinerary σ :=
  match c.phase with
  | .waiting .. | .pausing .. => stops.dropLast
  | _ => stops

/-- What a call has measured that has made these stops: the outcome of each stop that is over, and
then its own end. -/
def account (setup : Setup σ) (c : Call) (stops : Itinerary σ) : List Measurement :=
  (c.stopsOver stops).map (Stop.outcome setup c.request) ++
    c.ending?.toList.map (.call c.request.method)

variable {settings : Settings} {c : Call} {w : World σ} {stops : Itinerary σ} {index since : Nat}
  {endpoint : Endpoint}

/-- An attempt measures nothing before it has ended. -/
lemma measurements_attempt {attempt : Nat} :
    (c.attempt setup w index attempt endpoint).2.2.measurements = [] := rfl

/-- To give up the call counts it as exhausted. -/
lemma filter_isOfCall_exhaust :
    (c.exhaust w).2.2.measurements.filter Measurement.isOfCall =
      [.call c.request.method .exhausted] := by
  rw [measurements_exhaust]
  rfl

/-- To end the call with a value counts a good attempt and a call that succeeded. -/
lemma filter_isOfCall_succeed {v : Json} :
    (c.succeed setup w index since endpoint v).2.2.measurements.filter Measurement.isOfCall =
      [.attempt endpoint.displayName true, .call c.request.method .success] := by
  rw [measurements_succeed, List.filter_append,
    (w.ofTracker_recordSuccess _ _ _ _ _).filter_isOfCall]
  rfl

/-- To give up an endpoint counts a failed attempt. -/
lemma filter_isOfCall_giveUp {failure : Rpc.Failure}
    (hfault : (w.recordFailure setup index endpoint .call).2.2 = none) :
    (c.giveUp setup w index endpoint failure).2.2.measurements.filter Measurement.isOfCall =
      [.attempt endpoint.displayName false] := by
  rw [measurements_giveUp _ _ _ _ _ _ hfault, List.filter_append,
    (w.ofTracker_recordFailure _ _ _ _).filter_isOfCall]
  rfl

/-- When a call has ended, all its stops are over. -/
lemma stopsOver_of_result? (h : c.result?.isSome) (stops : Itinerary σ) :
    c.stopsOver stops = stops := by
  unfold stopsOver
  unfold result? at h
  split <;> simp_all

/-- A step of a call adds to its account what it measures. -/
theorem At.account_step {out : World σ × Call × Journal} (h : c.At setup settings stops)
    (htakes : c.Takes setup w out)
    (h' : out.2.1.At setup settings (stops.extend setup w c out.2.2)) :
    out.2.1.account setup (stops.extend setup w c out.2.2) =
      c.account setup stops ++ out.2.2.measurements.filter Measurement.isOfCall := by
  cases htakes with
  | exhaust hphase hnone =>
    rw [filter_isOfCall_exhaust]
    simp [account, stopsOver, ending?, exhaust, Itinerary.extend, hphase, hnone]
  | skip hphase hget _ hquiet hmeasured =>
    rw [hmeasured]
    simp [account, stopsOver, ending?, Itinerary.extend, hphase, hget, hquiet, Stop.outcome,
      Stop.isVisit, Stop.verdict, List.filter_cons, Measurement.isOfCall]
  | visit hphase hget _ _ _ hmeasured =>
    rw [Journal.measurements_append, hmeasured, measurements_attempt]
    simp [account, stopsOver, ending?, attempt, Itinerary.extend, hphase, hget]
  | crash => exact h'.elim
  | succeed hphase _ hget hending =>
    simp only [At, hphase] at h
    obtain ⟨before, stop, past, x, hvisiting, -, hsends, rfl, -, rfl, rfl⟩ := h
    obtain rfl := Option.some.inj (hget.symm.trans hvisiting.endpoint)
    have houtcome := Stop.outcome_of_sends setup hsends c.request
    rw [World.value?_of_ending hending] at houtcome
    rw [filter_isOfCall_succeed]
    simp [account, stopsOver, ending?, succeed, Itinerary.extend, hphase, hvisiting.stops_eq,
      houtcome]
  | giveUp hphase _ hget hending =>
    simp only [At, hphase] at h
    obtain ⟨before, stop, past, x, hvisiting, -, hsends, rfl, -, rfl, rfl⟩ := h
    obtain rfl := Option.some.inj (hget.symm.trans hvisiting.endpoint)
    have hfailure := World.failure?_of_ending hending
    have houtcome := Stop.outcome_of_sends setup hsends c.request
    rw [World.value?_eq_none_of_failure? (Option.isSome_of_eq_some hfailure)] at houtcome
    rw [giveUp_call h'.recordFailure_eq_none, filter_isOfCall_giveUp h'.recordFailure_eq_none]
    simp [account, stopsOver, ending?, Itinerary.extend, hphase, hvisiting.stops_eq, houtcome]
  | pause hphase =>
    simp [account, stopsOver, ending?, Itinerary.extend, hphase]
  | resume hphase _ hget =>
    simp only [At, hphase] at h
    obtain ⟨before, stop, hvisiting, -, -, rfl, -⟩ := h
    rw [measurements_attempt]
    simp [account, stopsOver, ending?, attempt, Itinerary.extend, hphase, hvisiting.stops_eq]

/-- The account of a call shows its end once it has ended, and no other end. -/
lemma count_account_call (c : Call) (stops : Itinerary σ) (method : String) (ending : CallEnd) :
    (c.account setup stops).count (.call method ending) =
      if c.request.method = method ∧ c.ending? = some ending then 1 else 0 := by
  have houtcomes : ((c.stopsOver stops).map (Stop.outcome setup c.request)).count
      (.call method ending) = 0 := by
    rw [List.count_eq_zero]
    intro hmem
    obtain ⟨stop, -, hstop⟩ := List.mem_map.mp hmem
    unfold Stop.outcome at hstop
    split at hstop <;> cases hstop
  rw [account, List.count_append, houtcomes, Nat.zero_add]
  cases c.ending? with
  | none => simp
  | some e =>
    rw [Option.toList_some, List.map_singleton, List.count_singleton]
    simp

/-- The account of a call that has ended shows the outcomes of all its stops. -/
lemma count_account_of_result? (h : c.result?.isSome) {m : Measurement}
    (hm : ∀ method ending, m ≠ .call method ending) :
    (c.account setup stops).count m =
      stops.countP fun stop => stop.outcome setup c.request = m := by
  have hend : (c.ending?.toList.map (Measurement.call c.request.method)).count m = 0 := by
    rw [List.count_eq_zero]
    intro hmem
    obtain ⟨ending, -, hending⟩ := List.mem_map.mp hmem
    exact hm _ _ hending.symm
  rw [account, List.count_append, hend, stopsOver_of_result? h, List.count_eq_countP,
    List.countP_map]
  rfl

/-- The account of a call that ran out of endpoints shows for each of them, in registry order, that
it was passed over or that its visit failed. -/
lemma At.account_of_exhausted (h : c.At setup settings stops)
    (hending : c.ending? = some .exhausted) :
    ∃ outcomes, c.account setup stops = outcomes ++ [.call c.request.method .exhausted] ∧
      List.Forall₂ Endpoint.PassedBy setup.registry.endpoints outcomes := by
  obtain ⟨method, failure?, hphase⟩ :
      ∃ method failure?, c.phase = .ended (.error (.exhausted method failure?)) := by
    unfold ending? at hending
    split at hending
    case h_1 => cases hending
    case h_2 method failure? hphase => exact ⟨method, failure?, hphase⟩
    case h_3 => cases hending
  simp only [At, hphase] at h
  obtain ⟨hover, hlength, -⟩ := h
  refine ⟨stops.map (Stop.outcome setup c.request), ?_, ?_⟩
  · simp [account, stopsOver, ending?, hphase]
  · rw [hover.endpoints_eq hlength, List.forall₂_map_left_iff, List.forall₂_map_right_iff,
      List.forall₂_same]
    intro stop hstop
    have hvisit := Stop.isVisit_eq_allows (hover.skipped_iff stop hstop)
    unfold Stop.outcome
    split
    case isTrue =>
      left
      rw [hover.stop_value?_eq_none hstop]
      rfl
    case isFalse hskipped =>
      right
      exact ⟨_, by simpa [hvisit] using hskipped, rfl⟩

end Call

/-! ## Accounts in runs -/

/-- A probe makes no measurement of a call. -/
lemma Cycle.filter_isOfCall_of_takes {w : World σ} {c : Cycle} {index : Nat}
    {out : World σ × Cycle × Journal} (h : c.Takes setup w index out) :
    out.2.2.measurements.filter Measurement.isOfCall = [] := by
  cases h with
  | send => rfl
  | crash => rfl
  | succeed _ _ _ _ _ _ hmeasured =>
    rw [hmeasured, List.filter_append, (w.ofTracker_recordSuccess _ _ _ _ _).filter_isOfCall]
    rfl
  | fail _ _ _ _ _ _ _ hmeasured =>
    rw [hmeasured, List.filter_append, (w.ofTracker_recordFailure _ _ _ _).filter_isOfCall]
    rfl
  | overflow _ _ _ _ _ _ _ hmeasured =>
    rw [hmeasured, (w.ofTracker_recordFailure _ _ _ _).filter_isOfCall]

namespace Traffic

variable {settings : Settings} {start s s' : Traffic σ} {beats : List (Beat σ)} {notes : Journal}

/-- Nothing but a step of a call makes a measurement of a call. -/
lemma filter_isOfCall_of_next? {m : Move σ} (h : s.next? setup m = some (s', notes))
    (hm : ∀ id, m ≠ .advance id) : notes.measurements.filter Measurement.isOfCall = [] := by
  cases m with
  | advance id => exact absurd rfl (hm id)
  | probe id index =>
    obtain ⟨c, c', -, hstep, -, -⟩ := next?_probe_eq_some h
    exact Cycle.filter_isOfCall_of_takes (Cycle.takes_of_stepAt? hstep)
  | _ =>
    rw [(onlyEvents_of_next? h rfl).measurements]
    rfl

/-- The journal of the steps of a call holds its account. -/
theorem Run.account (hrun : Run setup start beats s) (hidle : start.calls = [])
    (hpolicy : setup.policy = .new settings.maxRetries settings.backoffUnit)
    (htransport : setup.transport.Faultless)
    (hfaultless : start.world.tracker.Faultless (log setup beats)) {id : Nat} {c : Call}
    (hc : s.calls[id]? = some c) :
    (Traffic.notes (ownBeats id beats)).measurements.filter Measurement.isOfCall =
      c.account setup (itinerary setup id (ownBeats id beats)) := by
  refine (hrun.own_induction (P := fun own c => c.At setup settings (itinerary setup id own) ∧
    (Traffic.notes own).measurements.filter Measurement.isOfCall =
      c.account setup (itinerary setup id own)) ?_ ?_ hidle hfaultless hc).2
  · intro request now
    exact ⟨Call.at_start request now, rfl⟩
  · rintro own b c c' ⟨hat, haccount⟩ hmove hc hstep hlog
    have htakes := Call.takes_of_step? hstep
    have hdeeds : b.deeds setup = c.deeds setup b.before.world := by
      simp [Beat.deeds, hmove, hc]
    rw [Beat.log, hdeeds] at hlog
    have hat' := hat.after_step hpolicy htransport htakes hlog
    rw [itinerary_concat hc, notes_concat, Journal.measurements_append, List.filter_append,
      haccount]
    exact ⟨hat', (hat.account_step htakes hat').symm⟩

/-- What a run measures is what its beats measure. -/
lemma measurements_notes (beats : List (Beat σ)) :
    (Traffic.notes beats).measurements = beats.flatMap fun b => b.notes.measurements :=
  List.filterMap_flatMap

/-- How often a measurement of a call was made in a run is a sum over the accounts of its calls. -/
theorem Run.count_measurements (hrun : Run setup start beats s) (hidle : start.calls = [])
    (hpolicy : setup.policy = .new settings.maxRetries settings.backoffUnit)
    (htransport : setup.transport.Faultless)
    (hfaultless : start.world.tracker.Faultless (log setup beats)) {m : Measurement}
    (hm : m.isOfCall = true) (f : Nat → Nat)
    (hf : ∀ id c, s.calls[id]? = some c →
      (c.account setup (itinerary setup id (ownBeats id beats))).count m = f id) :
    (Traffic.notes beats).measurements.count m = ∑ id ∈ Finset.range s.calls.length, f id := by
  have hsum : ∀ some : List (Beat σ), (Traffic.notes some).measurements.count m =
      (some.map fun b => b.notes.measurements.count m).sum := by
    intro some
    rw [measurements_notes, List.count_flatMap]
    rfl
  rw [hsum, sum_beats s.calls.length (fun _ => true)]
  · refine Finset.sum_congr rfl ?_
    intro id hid
    have hc := List.getElem?_eq_getElem (Finset.mem_range.mp hid)
    rw [List.filter_true, ← hsum, ← List.count_filter hm,
      hrun.account hidle hpolicy htransport hfaultless hc, hf id _ hc]
  · intro b hb hne
    refine ⟨rfl, ?_⟩
    by_contra hother
    have hquiet : b.notes.measurements.filter Measurement.isOfCall = [] := by
      obtain ⟨before, later, rfl⟩ := List.append_of_mem hb
      obtain ⟨-, hnext, -⟩ := hrun.cut
      refine filter_isOfCall_of_next? hnext fun id hmove => ?_
      exact hother ⟨id, hrun.lt_length_calls hb hmove, hmove⟩
    exact hne (by rw [← List.count_filter hm, hquiet, List.count_nil])

end Traffic

end Failover
