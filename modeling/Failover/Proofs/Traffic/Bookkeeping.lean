import Failover.Proofs.Tracker.LatestFailure
import Failover.Proofs.Traffic.Commits
import Mathlib.Algebra.BigOperators.Fin
import Mathlib.Algebra.BigOperators.Ring.Finset

/-!
# The books of a run

Every visit of every call is one observation in the log of the run, and nothing else in the log is
an observation of a call (`Traffic.Run.committed`, `Traffic.Run.reporter`). A health record counts
the observations of calls at its index, so when all calls have ended its counters are the numbers of
visits and of values that came from the endpoint, whatever else went on and in whatever order.
-/

namespace Failover

variable {σ : Type}

/-! ## Who observes what -/

/-- What an entry observes at an index was observed by a call exactly if a call reported it. -/
lemma Tracker.Entry.isCall_of_observation? {e : Tracker.Entry} {index : Nat} {o : Observation}
    (h : e.observation? index = some o) : o.isCall = e.deed.isCallReport := by
  have hobserved := e.observed?_of_observation? h
  obtain ⟨time, deed⟩ := e
  cases deed with
  | success i ep latency observer =>
    cases hobserved
    cases observer <;> rfl
  | failure i ep observer =>
    cases hobserved
    cases observer <;> rfl
  | judge i ep isLast => cases hobserved
  | inquire ep => cases hobserved
  | survey r => cases hobserved

/-! ## Where values come from -/

/-- Whether a call has ended with a value. -/
def Call.hasValue (c : Call) : Bool :=
  match c.result? with
  | some (.value _) => true
  | _ => false

/-- The index of the last endpoint at which a call made an attempt. -/
def Itinerary.lastIndex? (stops : Itinerary σ) : Option Nat :=
  stops.attempts.getLast?.map fun (stop, _) => stop.index

variable {setup : Setup σ} {settings : Settings}

/-- No visit that is over brought a value, unless it is the last one. -/
lemma Itinerary.Over.stop_value?_eq_none {request : Rpc.Request} {stops : Itinerary σ}
    {stop : Stop σ} (h : stops.Over setup settings request) (hstop : stop ∈ stops) :
    stop.value? setup request = none := by
  unfold Stop.value?
  cases hlast : stop.sends.getLast? with
  | none => rfl
  | some w =>
    have hmade : (stop, w) ∈ stop.sends.map (stop, ·) :=
      List.mem_map_of_mem (List.mem_of_getLast? hlast)
    exact h.value?_eq_none (List.mem_flatMap.mpr ⟨stop, hstop, hmade⟩)

namespace Call

variable {c : Call} {stops : Itinerary σ}

/-- The last stop of a call that has a value is the visit that brought it, and everything before it
is over. -/
lemma At.exists_of_hasValue (h : c.At setup settings stops) (hvalue : c.hasValue = true) :
    ∃ (before : Itinerary σ) (stop : Stop σ), stops = before ++ [stop] ∧
      before.Over setup settings c.request ∧ stop.isVisit = true ∧
      (stop.value? setup c.request).isSome ∧ stops.lastIndex? = some stop.index ∧
      stop.index < setup.registry.size := by
  obtain ⟨v, hr⟩ : ∃ v, c.result? = some (.value v) := by
    unfold hasValue at hvalue
    split at hvalue
    case h_1 v hr => exact ⟨v, hr⟩
    case h_2 => cases hvalue
  simp only [At, result?_eq_some_iff.mp hr] at h
  obtain ⟨before, stop, past, w, hvisiting, hsends, hbrought⟩ := h
  refine ⟨before, stop, hvisiting.stops_eq, hvisiting.earlier, Stop.isVisit_of_sends hsends, ?_, ?_,
    ?_⟩
  · rw [Stop.value?, hsends, List.getLast?_concat, Option.bind_some, hbrought]
    rfl
  · rw [Itinerary.lastIndex?, hvisiting.stops_eq, Itinerary.getLast?_attempts_concat before hsends]
    rfl
  · rw [hvisiting.index]
    exact (List.getElem?_eq_some_iff.mp hvisiting.endpoint).1

/-- Every visit of a call that has ended without a value is over. -/
lemma At.over_of_not_hasValue (h : c.At setup settings stops) (hended : c.result?.isSome)
    (hvalue : c.hasValue = false) : stops.Over setup settings c.request := by
  obtain ⟨r, hr⟩ := Option.isSome_iff_exists.mp hended
  simp only [At, result?_eq_some_iff.mp hr] at h
  cases r with
  | value v => simp [hasValue, hr] at hvalue
  | error e => exact h.1
  | fault f => exact h.elim

/-- Of the visits of a call that has ended, one brought a value exactly if the call has one, and it
is the one with the last attempt. -/
lemma At.countP_value (h : c.At setup settings stops) (hended : c.result?.isSome) (index : Nat) :
    (stops.countP fun stop =>
        (stop.index = index && (stop.value? setup c.request).isSome) && stop.isVisit) =
      if c.hasValue = true ∧ stops.lastIndex? = some index then 1 else 0 := by
  have hnone : ∀ before : Itinerary σ, before.Over setup settings c.request →
      (before.countP fun stop =>
        (stop.index = index && (stop.value? setup c.request).isSome) && stop.isVisit) = 0 := by
    intro before hover
    rw [List.countP_eq_zero]
    intro stop hstop
    simp [hover.stop_value?_eq_none hstop]
  cases hvalue : c.hasValue with
  | true =>
    obtain ⟨before, stop, rfl, hover, hvisit, hbrought, hlast, -⟩ := h.exists_of_hasValue hvalue
    rw [hlast, List.countP_append, hnone before hover]
    simp [hvisit, hbrought, List.countP_cons]
  | false =>
    rw [hnone stops (h.over_of_not_hasValue hended hvalue)]
    simp

end Call

namespace Traffic

variable {start s : Traffic σ} {beats : List (Beat σ)}

/-! ## What is counted -/

/-- The number of visits that the calls of a run have made to the endpoint with an index. -/
def visitCount (setup : Setup σ) (s : Traffic σ) (beats : List (Beat σ)) (index : Nat) : Nat :=
  ∑ id ∈ Finset.range s.calls.length,
    (itinerary setup id (ownBeats id beats)).countP fun stop => stop.index = index && stop.isVisit

/-- The number of calls of a run that have ended with a value which came from the endpoint with an
index: their last attempt was made there. -/
def servedCount (setup : Setup σ) (s : Traffic σ) (beats : List (Beat σ)) (index : Nat) : Nat :=
  ∑ id ∈ Finset.range s.calls.length,
    if s.calls[id]?.any Call.hasValue = true ∧
      (itinerary setup id (ownBeats id beats)).lastIndex? = some index then 1 else 0

/-! ## Sums over the moves of a run -/

/-- A sum over the moves of a run, of which only some steps of calls count, is the sum over the
calls of the sums over their own moves. -/
lemma sum_beats (n : Nat) (p : Beat σ → Bool) (f : Beat σ → Nat)
    (hf : ∀ b ∈ beats, f b ≠ 0 → p b = true ∧ ∃ id < n, b.move = .advance id) :
    (beats.map f).sum =
      ∑ id ∈ Finset.range n, (((ownBeats id beats).filter p).map f).sum := by
  induction beats with
  | nil => simp [ownBeats]
  | cons b rest ih =>
    have hrest := ih fun b hb => hf b (List.mem_cons_of_mem _ hb)
    have hsplit : ∀ id, (((ownBeats id (b :: rest)).filter p).map f).sum =
        (if b.move.advances id && p b then f b else 0) +
          (((ownBeats id rest).filter p).map f).sum := by
      intro id
      unfold ownBeats
      rw [List.filter_cons]
      cases b.move.advances id with
      | false => simp
      | true =>
        rw [if_pos rfl, List.filter_cons]
        cases p b <;> simp
    simp only [hsplit, Finset.sum_add_distrib, ← hrest, List.map_cons, List.sum_cons]
    congr 1
    by_cases hzero : f b = 0
    · simp [hzero]
    · obtain ⟨hcounts, id, hid, hmove⟩ := hf b List.mem_cons_self hzero
      rw [Finset.sum_eq_single_of_mem id (Finset.mem_range.mpr hid)]
      · simp [hmove, hcounts, Move.advances]
      · intro other _ hne
        simp [hmove, Move.advances, Ne.symm hne]

/-- If each of two lists that correspond to each other counts for the same, one by one, so do both
in total. -/
lemma sum_map_of_forall₂ {α β : Type} {R : α → β → Prop} {as : List α} {bs : List β}
    {counts : α → Bool} {f : β → Nat} (h : List.Forall₂ R as bs)
    (hf : ∀ a b, R a b → f b = if counts a then 1 else 0) :
    (bs.map f).sum = as.countP counts := by
  induction h with
  | nil => rfl
  | cons hab _ ih =>
    rw [List.map_cons, List.sum_cons, ih, hf _ _ hab, List.countP_cons, Nat.add_comm]

/-- Counting a list by its indices. -/
lemma sum_range_getElem? {α : Type} (p : α → Bool) (as : List α) :
    (∑ i ∈ Finset.range as.length, if as[i]?.any p = true then 1 else 0) = as.countP p := by
  induction as with
  | nil => rfl
  | cons a as ih =>
    rw [List.length_cons, Finset.sum_range_succ', List.countP_cons, ← ih]
    simp

/-- What the moves of a run have observed at an index, move by move. -/
lemma countP_history_log (p : Observation → Bool) (index : Nat) :
    (Tracker.history index (log setup beats)).countP p =
      (beats.map fun b => (Tracker.history index (b.log setup)).countP p).sum := by
  unfold Tracker.history log
  rw [List.filterMap_flatMap, List.countP_flatMap]
  rfl

/-- A move that reports nothing for a call observes nothing for it. -/
lemma countP_history_eq_zero {p : Observation → Bool} (hp : ∀ o, p o = true → o.isCall = true)
    {b : Beat σ} (index : Nat) (h : b.reportsCall setup = false) :
    (Tracker.history index (b.log setup)).countP p = 0 := by
  rw [List.countP_eq_zero]
  intro o ho hpo
  obtain ⟨e, he, hobserved⟩ := List.mem_filterMap.mp ho
  obtain ⟨deed, hdeed, rfl⟩ := List.mem_map.mp he
  refine List.any_eq_false.mp h deed hdeed ?_
  rw [← Tracker.Entry.isCall_of_observation? hobserved, hp o hpo]

/-- A move that reports a visit makes one observation at the index of its stop. -/
lemma history_of_committed {id : Nat} {request : Rpc.Request} {stop : Stop σ} {b : Beat σ}
    (h : stop.CommittedBy setup id request b) (index : Nat) :
    ∃ latency?, (latency?.isSome = (stop.value? setup request).isSome) ∧
      Tracker.history index (b.log setup) =
        if stop.index = index then [⟨.call, (b.before.reading setup).wall, latency?⟩] else [] := by
  obtain ⟨w, c, attempt, -, -, -, -, -, hdeeds, -⟩ := h
  rw [Beat.log, hdeeds, Stop.deed]
  cases stop.value? setup request with
  | some v =>
    refine ⟨some (.ofMillis (b.before.world.now - w.now)), rfl, ?_⟩
    by_cases hindex : stop.index = index <;>
      simp [Tracker.history, Tracker.Entry.observation?, Tracker.Entry.observed?, hindex]
  | none =>
    refine ⟨none, rfl, ?_⟩
    by_cases hindex : stop.index = index <;>
      simp [Tracker.history, Tracker.Entry.observation?, Tracker.Entry.observed?, hindex]

/-- What all moves of a run in which every call has ended observe at an index is the sum over the
visits, if each move that reports a visit observes what the visit counts for. -/
lemma Run.countP_history {settings : Settings} (hrun : Run setup start beats s)
    (hidle : start.calls = [])
    (hpolicy : setup.policy = .new settings.maxRetries settings.backoffUnit)
    (htransport : setup.transport.Faultless)
    (hfaultless : start.world.tracker.Faultless (log setup beats))
    (hended : ∀ c ∈ s.calls, c.result?.isSome) {p : Observation → Bool}
    (hp : ∀ o, p o = true → o.isCall = true) {index : Nat} (counts : Nat → Stop σ → Bool)
    (hcounts : ∀ id c, s.calls[id]? = some c → ∀ stop b, stop.CommittedBy setup id c.request b →
      (Tracker.history index (b.log setup)).countP p = if counts id stop then 1 else 0) :
    (Tracker.history index (log setup beats)).countP p =
      ∑ id ∈ Finset.range s.calls.length,
        (itinerary setup id (ownBeats id beats)).countP fun stop =>
          counts id stop && stop.isVisit := by
  rw [countP_history_log, sum_beats s.calls.length (Beat.reportsCall setup)]
  · refine Finset.sum_congr rfl ?_
    intro id hid
    obtain ⟨c, hc⟩ : ∃ c, s.calls[id]? = some c :=
      ⟨_, List.getElem?_eq_getElem (Finset.mem_range.mp hid)⟩
    have hcommitted := hrun.committed hidle hpolicy htransport hfaultless hc
    rw [Call.visitsOver_of_result? (hended c (List.mem_of_getElem? hc))] at hcommitted
    rw [sum_map_of_forall₂ hcommitted (hcounts id c hc), List.countP_filter]
  · intro b hb hne
    have hreports : b.reportsCall setup = true := by
      by_contra hquiet
      exact hne (countP_history_eq_zero hp index (by simpa using hquiet))
    exact ⟨hreports, hrun.reporter hb hreports⟩

/-! ## The counters of the records -/

/-- When every call has ended, the calls have observed at an index what they have visited there. -/
lemma Run.countP_isCall (hrun : Run setup start beats s) (hidle : start.calls = [])
    (hpolicy : setup.policy = .new settings.maxRetries settings.backoffUnit)
    (htransport : setup.transport.Faultless)
    (hfaultless : start.world.tracker.Faultless (log setup beats))
    (hended : ∀ c ∈ s.calls, c.result?.isSome) (index : Nat) :
    (Tracker.history index (log setup beats)).countP Observation.isCall =
      visitCount setup s beats index := by
  rw [hrun.countP_history hidle hpolicy htransport hfaultless hended (fun _ h => h)
    fun _ stop => stop.index = index]
  · rfl
  · intro id c _ stop b hcommitted
    obtain ⟨latency?, -, hhistory⟩ := history_of_committed hcommitted index
    rw [hhistory]
    by_cases hindex : stop.index = index <;> simp [hindex, Observation.isCall]

/-- When every call has ended, the successes that the calls have observed at an index are the calls
that have a value from there. -/
lemma Run.countP_isSuccess (hrun : Run setup start beats s) (hidle : start.calls = [])
    (hpolicy : setup.policy = .new settings.maxRetries settings.backoffUnit)
    (htransport : setup.transport.Faultless)
    (hfaultless : start.world.tracker.Faultless (log setup beats))
    (hended : ∀ c ∈ s.calls, c.result?.isSome) (index : Nat) :
    (Tracker.history index (log setup beats)).countP (fun o => o.isCall && o.isSuccess) =
      servedCount setup s beats index := by
  have hp : ∀ o : Observation, (o.isCall && o.isSuccess) = true → o.isCall = true :=
    fun _ h => (Bool.and_eq_true_iff.mp h).1
  rw [hrun.countP_history hidle hpolicy htransport hfaultless hended hp fun id stop =>
    stop.index = index && (s.calls[id]?.bind fun c => stop.value? setup c.request).isSome]
  · refine Finset.sum_congr rfl ?_
    intro id hid
    obtain ⟨c, hc⟩ : ∃ c, s.calls[id]? = some c :=
      ⟨_, List.getElem?_eq_getElem (Finset.mem_range.mp hid)⟩
    obtain ⟨hat, -⟩ := hrun.call_at hidle hpolicy htransport hfaultless hc
    have hcount := hat.countP_value (hended c (List.mem_of_getElem? hc)) index
    simpa [hc] using hcount
  · intro id c hc stop b hcommitted
    obtain ⟨latency?, hlatency, hhistory⟩ := history_of_committed hcommitted index
    rw [hhistory, hc, Option.bind_some, ← hlatency]
    by_cases hindex : stop.index = index <;>
      simp [hindex, Observation.isCall, Observation.isSuccess]

/-- Each call that has a value has it from one endpoint. -/
lemma Run.sum_servedCount (hrun : Run setup start beats s) (hidle : start.calls = [])
    (hpolicy : setup.policy = .new settings.maxRetries settings.backoffUnit)
    (htransport : setup.transport.Faultless)
    (hfaultless : start.world.tracker.Faultless (log setup beats)) :
    ∑ index ∈ Finset.range setup.registry.size, servedCount setup s beats index =
      s.calls.countP Call.hasValue := by
  unfold servedCount
  rw [Finset.sum_comm, ← sum_range_getElem?]
  refine Finset.sum_congr rfl ?_
  intro id hid
  obtain ⟨c, hc⟩ : ∃ c, s.calls[id]? = some c :=
    ⟨_, List.getElem?_eq_getElem (Finset.mem_range.mp hid)⟩
  rw [hc, Option.any_some]
  cases hvalue : c.hasValue with
  | false => simp
  | true =>
    obtain ⟨hat, -⟩ := hrun.call_at hidle hpolicy htransport hfaultless hc
    obtain ⟨-, stop, -, -, -, -, hlast, hlt⟩ := hat.exists_of_hasValue hvalue
    rw [hlast]
    simp [hlt]

/-- When every call has ended, the record at an index counts the visits there and the values from
there. -/
lemma Run.record_counts {threshold : UInt32} {timeout : Duration} (hrun : Run setup start beats s)
    (hidle : start.calls = [])
    (hfresh : start.world.tracker = .new setup.registry.size threshold timeout)
    (hpolicy : setup.policy = .new settings.maxRetries settings.backoffUnit)
    (htransport : setup.transport.Faultless)
    (hfaultless : start.world.tracker.Faultless (log setup beats))
    (hended : ∀ c ∈ s.calls, c.result?.isSome) {index : Nat}
    (hindex : index < setup.registry.size) :
    ∃ r, s.world.tracker.record? index = some r ∧
      r.totalRequests = visitCount setup s beats index ∧
      r.successfulRequests = servedCount setup s beats index := by
  obtain ⟨hrecord, hreflects⟩ :=
    Tracker.reflects_replay_new threshold timeout hindex (log setup beats)
  rw [← hfresh, ← hrun.tracker] at hrecord
  refine ⟨_, hrecord, ?_, ?_⟩
  · rw [hreflects.totalRequests, hrun.countP_isCall hidle hpolicy htransport hfaultless hended]
  · rw [hreflects.successfulRequests,
      hrun.countP_isSuccess hidle hpolicy htransport hfaultless hended]

/-! ## The books -/

/-- What the moves and the records of a run say about the visits of its calls. -/
structure Books (setup : Setup σ) (settings : Settings) (s : Traffic σ) (beats : List (Beat σ)) :
    Prop where
  /-- What reports an observation of a call is a step of one of the calls. -/
  reporter : ∀ b ∈ beats, b.reportsCall setup = true →
    ∃ id < s.calls.length, b.move = .advance id
  /-- The itinerary of a call says where it went, what it skipped and which attempts it made. -/
  walk : ∀ (id : Nat) (c : Call), s.calls[id]? = some c →
    Walk setup settings c (itinerary setup id (ownBeats id beats))
      (Traffic.notes (ownBeats id beats))
  /-- The visits of a call that are over and the moves in which it reports something correspond to
  each other one by one. -/
  committed : ∀ (id : Nat) (c : Call), s.calls[id]? = some c →
    List.Forall₂ (Stop.CommittedBy setup id c.request)
      (c.visitsOver (itinerary setup id (ownBeats id beats)))
      ((ownBeats id beats).filter (Beat.reportsCall setup))
  /-- If no call oversleeps, it takes in the end of an attempt at the very moment of this end. -/
  punctual : (∀ b ∈ beats, b.isPunctual = true) → ∀ b ∈ beats, ∀ id c index attempt since settled,
    b.move = .advance id → b.before.calls[id]? = some c →
      c.phase = .waiting index attempt since settled →
        b.before.world.now = since + settled.after
  /-- When every call has ended, the record at an index counts the visits there, and the calls that
  have a value from there. -/
  counted : (∀ c ∈ s.calls, c.result?.isSome) → ∀ index < setup.registry.size,
    ∃ r, s.world.tracker.record? index = some r ∧
      r.totalRequests = visitCount setup s beats index ∧
      r.successfulRequests = servedCount setup s beats index
  /-- When every call has ended, the records count as many successes as calls have a value. -/
  sum_eq : (∀ c ∈ s.calls, c.result?.isSome) →
    ∑ index ∈ Finset.range setup.registry.size,
        (s.world.tracker.recordAt index).successfulRequests =
      s.calls.countP Call.hasValue

/-- In a punctual run a call takes in the end of an attempt at the moment of this end. -/
lemma Run.now_eq_of_waiting (hrun : Run setup start beats s) (hidle : start.calls = [])
    (hpunctual : ∀ b ∈ beats, b.isPunctual = true) {b : Beat σ} (hb : b ∈ beats) {id : Nat}
    {c : Call} {index attempt since : Nat} {settled : Rpc.Settled} (hmove : b.move = .advance id)
    (hc : b.before.calls[id]? = some c) (hphase : c.phase = .waiting index attempt since settled) :
    b.before.world.now = since + settled.after := by
  obtain ⟨before, later, rfl⟩ := List.append_of_mem hb
  obtain ⟨hbefore, hnext, -⟩ := hrun.cut
  have hle := hbefore.now_le_of_waiting hidle
    (fun b hb => hpunctual b (List.mem_append_left _ hb)) hc hphase
  rw [hmove] at hnext
  obtain ⟨d, d', hd, hstep, -⟩ := next?_advance_eq_some hnext
  obtain rfl := Option.some.inj (hc.symm.trans hd)
  refine Nat.le_antisymm hle ?_
  unfold Call.step? at hstep
  simp only [hphase] at hstep
  split at hstep
  case isTrue hdue => exact hdue
  case isFalse => cases hstep

/-- **Every visit is booked once.** Over a transport without faults, whatever calls, probe cycles
and reports go on at any pace: each visit of a call reports one observation at the index of its
endpoint when the call takes in the end of the last attempt, a success with the time that this
attempt took exactly if it brought a value, and nothing else is reported for a call. When every call
has ended, the records count the visits to each endpoint and the values that came from it, and all
together the calls that have a value. -/
theorem every_visit_is_booked_once {configs : List EndpointConfig} {settings : Settings}
    {transport : Rpc.Transport σ} {wire : σ} {clock : Clock} {draw : Nat → Nat} {m : Manager σ}
    {built : Journal}
    (hbuild : Manager.build configs settings transport wire clock draw = .ok (m, built))
    (htransport : transport.Faultless) (hrun : Run m.setup (idle m.world) beats s)
    (hfaultless : m.world.tracker.Faultless (log m.setup beats)) :
    Books m.setup settings s beats := by
  obtain ⟨-, registry, -, rfl, -⟩ := Manager.build_eq_ok_iff.mp hbuild
  exact {
    reporter := fun b hb hreports => hrun.reporter hb hreports
    walk := by
      intro id c hc
      obtain ⟨hat, hsendings, -⟩ := hrun.call_at rfl rfl htransport hfaultless hc
      exact hat.walk hsendings
    committed := fun id c hc => hrun.committed rfl rfl htransport hfaultless hc
    punctual := by
      intro hpunctual b hb id c index attempt since settled hmove hc hphase
      exact hrun.now_eq_of_waiting rfl hpunctual hb hmove hc hphase
    counted := fun hended index hindex =>
      hrun.record_counts rfl rfl rfl htransport hfaultless hended hindex
    sum_eq := by
      intro hended
      rw [← hrun.sum_servedCount rfl rfl htransport hfaultless]
      refine Finset.sum_congr rfl ?_
      intro index hindex
      obtain ⟨r, hr, -, hserved⟩ := hrun.record_counts rfl rfl rfl htransport hfaultless hended
        (Finset.mem_range.mp hindex)
      rw [Tracker.recordAt_of_record? hr, hserved] }

/-- Two calls at once, to two endpoints with two attempts each that take five milliseconds. The
first call fails twice at the first endpoint, where the second call has its value from in the
meantime, and has a value from the second endpoint: of four attempts three visits are counted, two
of them at the first endpoint, and two values. -/
theorem every_visit_is_booked_once_of_two_calls :
    let settings := { Settings.standard with healthChecksEnabled := false, maxRetries := 2 }
    let flaky : Rpc.Transport Nat :=
      ⟨fun n _ _ => (⟨5, .result (if n % 2 = 0 then .error .emptyResult else .ok .null)⟩, n + 1)⟩
    ∃ m built beats s,
      Manager.build [.ofUrl "http://a", .ofUrl "http://b"] settings flaky 0 .standard
        (fun _ => 0) = .ok (m, built) ∧
      flaky.Faultless ∧ Run m.setup (idle m.world) beats s ∧
      m.world.tracker.Faultless (log m.setup beats) ∧ s.world.wire = 4 ∧
      (∀ b ∈ beats, b.isPunctual = true) ∧ (∀ c ∈ s.calls, c.result?.isSome) ∧
      ((ownBeats 0 beats).filter (Beat.reportsCall m.setup)).length = 2 ∧
      ((ownBeats 1 beats).filter (Beat.reportsCall m.setup)).length = 1 ∧
      (∃ r, s.world.tracker.record? 0 = some r ∧ r.totalRequests = 2 ∧
        r.successfulRequests = 1) ∧
      (∃ r, s.world.tracker.record? 1 = some r ∧ r.totalRequests = 1 ∧
        r.successfulRequests = 1) ∧
      ∑ index ∈ Finset.range m.setup.registry.size,
        (s.world.tracker.recordAt index).successfulRequests = 2 := by
  intro settings flaky
  have hregistry : Registry.ofConfigs [.ofUrl "http://a", .ofUrl "http://b"] = .ok _ :=
    Registry.ofConfigs_of_ordered (List.cons_ne_nil _ _) (by decide)
  let m := Manager.fresh ⟨[.ofUrl "http://a", .ofUrl "http://b"].map Endpoint.ofConfig, by simp,
    by decide⟩ settings flaky 0 .standard fun _ => 0
  have hbuild : Manager.build [.ofUrl "http://a", .ofUrl "http://b"] settings flaky 0 .standard
      (fun _ => 0) = .ok (m, _) := Manager.build_eq_ok_iff.mpr ⟨rfl, _, hregistry, rfl, rfl⟩
  have htransport : flaky.Faultless := fun _ _ _ _ => nofun
  let past := play m.setup ([], idle m.world)
    [.call ⟨"ping", []⟩, .call ⟨"ping", []⟩, .advance 0, .advance 1, .elapse 5, .advance 0,
      .advance 1, .elapse 2000, .advance 0, .elapse 5, .advance 0, .advance 0, .elapse 5,
      .advance 0]
  have hrun : Run m.setup (idle m.world) past.1 past.2 := Run.nil.play _
  have hfaultless : m.world.tracker.Faultless (log m.setup past.1) := by decide
  have hbooks := every_visit_is_booked_once hbuild htransport hrun hfaultless
  have hended : ∀ c ∈ past.2.calls, c.result?.isSome := by decide
  refine ⟨m, _, past.1, past.2, hbuild, htransport, hrun, hfaultless, ?_, ?_, hended, ?_, ?_, ?_,
    ?_, ?_⟩
  · decide
  · decide
  · have hc := List.getElem?_eq_getElem (l := past.2.calls) (i := 0) (by decide)
    exact (hbooks.committed 0 _ hc).length_eq.symm.trans (by decide)
  · have hc := List.getElem?_eq_getElem (l := past.2.calls) (i := 1) (by decide)
    exact (hbooks.committed 1 _ hc).length_eq.symm.trans (by decide)
  · obtain ⟨r, hr, htotal, hserved⟩ := hbooks.counted hended 0 (by decide)
    exact ⟨r, hr, htotal.trans (by decide), hserved.trans (by decide)⟩
  · obtain ⟨r, hr, htotal, hserved⟩ := hbooks.counted hended 1 (by decide)
    exact ⟨r, hr, htotal.trans (by decide), hserved.trans (by decide)⟩
  · exact (hbooks.sum_eq hended).trans (by decide)

end Traffic

end Failover
