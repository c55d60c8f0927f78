import Failover.Proofs.Traffic.Walk
import Mathlib.Data.List.Forall2

/-!
# What calls report

A visit of a call makes any number of attempts and then reports one observation to the tracker, when
the call takes in the end of the last attempt. `Stop.CommittedBy` says which one, a success with the
time that this attempt took or a failure, and that the tracker has taken it in after the move. The
visits of a call that are over and the moves in which it reports something correspond to each other
one by one and in order (`Traffic.Run.committed`), and nobody else reports anything for a call.
-/

namespace Failover

variable {σ : Type}

/-! ## Visits and their observations -/

/-- Whether a deed is an observation that a call made. -/
def Tracker.Deed.isCallReport : Tracker.Deed → Bool
  | .success _ _ _ .call => true
  | .failure _ _ .call => true
  | _ => false

/-- Whether a move reports an observation that a call made. -/
def Beat.reportsCall (setup : Setup σ) (b : Beat σ) : Bool :=
  (b.deeds setup).any Tracker.Deed.isCallReport

namespace Stop

/-- Whether a stop is a visit: something was sent. -/
def isVisit (stop : Stop σ) : Bool := !stop.sends.isEmpty

/-- The value that the last attempt of a visit brought, if it did. -/
def value? (setup : Setup σ) (request : Rpc.Request) (stop : Stop σ) : Option Json :=
  stop.sends.getLast?.bind fun w => w.value? setup stop.endpoint request

/-- The observation that a visit ends with when its last attempt took so many milliseconds. -/
def deed (setup : Setup σ) (request : Rpc.Request) (stop : Stop σ) (elapsed : Nat) : Tracker.Deed :=
  match stop.value? setup request with
  | some _ => .success stop.index stop.endpoint (Duration.ofMillis elapsed) .call
  | none => .failure stop.index stop.endpoint .call

/-- A visit of the call with a number is reported by a move: the call takes in the end of the last
attempt, all that it asks of the tracker is to note the one observation of the visit, and the
tracker has noted it after the move. -/
def CommittedBy (setup : Setup σ) (id : Nat) (request : Rpc.Request) (stop : Stop σ)
    (b : Beat σ) : Prop :=
  ∃ w c attempt, stop.sends.getLast? = some w ∧ b.move = .advance id ∧
    b.before.calls[id]? = some c ∧
    c.phase = .waiting stop.index attempt w.now (w.send setup stop.endpoint request).1 ∧
    w.now + (w.send setup stop.endpoint request).1.after ≤ b.before.world.now ∧
    b.deeds setup = [stop.deed setup request (b.before.world.now - w.now)] ∧
    b.after.world.tracker = b.before.world.tracker.after
      ⟨b.before.reading setup, stop.deed setup request (b.before.world.now - w.now)⟩

/-- The deed of a stop is the report of a call. -/
lemma isCallReport_deed (setup : Setup σ) (request : Rpc.Request) (stop : Stop σ)
    (elapsed : Nat) : (stop.deed setup request elapsed).isCallReport = true := by
  unfold deed
  split <;> rfl

/-- A stop that sends is a visit. -/
lemma isVisit_of_sends {stop : Stop σ} {past : List (World σ)} {w : World σ}
    (h : stop.sends = past ++ [w]) : stop.isVisit = true := by
  simp [isVisit, h]

end Stop

namespace Call

open Itinerary

variable {setup : Setup σ} {settings : Settings} {c : Call} {w : World σ} {stops : Itinerary σ}

/-- The visits of a call that are over: all of them, unless the last one is still going on. -/
def visitsOver (c : Call) (stops : Itinerary σ) : Itinerary σ :=
  match c.phase with
  | .waiting .. | .pausing .. => stops.dropLast.filter Stop.isVisit
  | _ => stops.filter Stop.isVisit

/-- When a call has ended, all its visits are over. -/
lemma visitsOver_of_result? (h : c.result?.isSome) (stops : Itinerary σ) :
    c.visitsOver stops = stops.filter Stop.isVisit := by
  unfold visitsOver
  unfold result? at h
  split <;> simp_all

/-- A call that waits is on a visit: the attempt that is on its way is the last one of the last
stop, and the other visits are over. -/
lemma At.visit_of_waiting {index attempt since : Nat} {settled : Rpc.Settled}
    {endpoint : Endpoint} (h : c.At setup settings stops)
    (hphase : c.phase = .waiting index attempt since settled)
    (hget : setup.registry.get? index = some endpoint) :
    ∃ stop x, stops.filter Stop.isVisit = c.visitsOver stops ++ [stop] ∧
      stop.sends.getLast? = some x ∧ stop.index = index ∧ stop.endpoint = endpoint ∧
      x.now = since ∧ (x.send setup stop.endpoint c.request).1 = settled := by
  simp only [At, hphase] at h
  obtain ⟨before, stop, past, x, hvisiting, -, hsends, rfl, -, rfl, rfl⟩ := h
  refine ⟨stop, x, ?_, ?_, hvisiting.index, ?_, rfl, rfl⟩
  · simp [visitsOver, hphase, hvisiting.stops_eq, Stop.isVisit_of_sends hsends]
  · rw [hsends, List.getLast?_concat]
  · exact Option.some.inj (hvisiting.endpoint.symm.trans hget)

/-- A step of a call either ends no visit and reports nothing, or ends the visit that was going on
and reports the observation of it. -/
lemma At.visitsOver_step {out : World σ × Call × Journal} (h : c.At setup settings stops)
    (htakes : c.Takes setup w out)
    (h' : out.2.1.At setup settings (stops.extend setup w c out.2.2)) :
    (out.2.1.visitsOver (stops.extend setup w c out.2.2) = c.visitsOver stops ∧
        (c.deeds setup w).any Tracker.Deed.isCallReport = false) ∨
      ∃ stop x attempt, out.2.1.visitsOver (stops.extend setup w c out.2.2) =
          c.visitsOver stops ++ [stop] ∧ stop.sends.getLast? = some x ∧
        c.phase =
          .waiting stop.index attempt x.now (x.send setup stop.endpoint c.request).1 ∧
        x.now + (x.send setup stop.endpoint c.request).1.after ≤ w.now ∧
        c.deeds setup w = [stop.deed setup c.request (w.now - x.now)] := by
  cases htakes with
  | exhaust hphase hnone =>
    left
    simp [visitsOver, exhaust, Itinerary.extend, deeds, hphase, hnone]
  | skip hphase hget _ hquiet =>
    left
    simp [visitsOver, Itinerary.extend, deeds, hphase, hget, hquiet, Stop.isVisit,
      Tracker.Deed.isCallReport]
  | visit hphase hget _ _ _ =>
    left
    simp [visitsOver, attempt, Itinerary.extend, deeds, hphase, hget, Tracker.Deed.isCallReport]
  | crash => exact h'.elim
  | succeed hphase hdue hget hending =>
    right
    obtain ⟨stop, x, hover, hsent, rfl, rfl, rfl, rfl⟩ := h.visit_of_waiting hphase hget
    refine ⟨stop, x, _, ?_, hsent, hphase, hdue, ?_⟩
    · simp only [Itinerary.extend, hphase]
      exact hover
    · rw [Stop.deed, Stop.value?, hsent, Option.bind_some, World.value?_of_ending hending]
      simp only [deeds, hphase, hget, hending]
  | @giveUp _ _ _ _ endpoint failure hphase hdue hget hending hlast =>
    right
    obtain ⟨stop, x, hover, hsent, rfl, rfl, rfl, rfl⟩ := h.visit_of_waiting hphase hget
    have hfailure := World.failure?_of_ending hending
    have hnone := World.value?_eq_none_of_failure? (Option.isSome_of_eq_some hfailure)
    refine ⟨stop, x, _, ?_, hsent, hphase, hdue, ?_⟩
    · rw [giveUp_call h'.recordFailure_eq_none]
      simp only [Itinerary.extend, hphase]
      exact hover
    · rw [Stop.deed, Stop.value?, hsent, Option.bind_some, hnone]
      simp only [deeds, hphase, hget, hending, if_neg (Nat.not_lt.mpr hlast)]
  | pause hphase _ hget hending hleft =>
    left
    simp [visitsOver, Itinerary.extend, deeds, hphase, hget, hending, hleft]
  | resume hphase _ hget =>
    left
    simp only [At, hphase] at h
    obtain ⟨before, stop, hvisiting, -, -, rfl, -⟩ := h
    simp [visitsOver, attempt, Itinerary.extend, deeds, hphase, hvisiting.stops_eq]

/-- A step after which a call waits has just sent something. -/
lemma since_of_takes {out : World σ × Call × Journal} (h : c.Takes setup w out)
    {index attempt since : Nat} {settled : Rpc.Settled}
    (hphase : out.2.1.phase = .waiting index attempt since settled) : since = w.now := by
  cases h with
  | exhaust => cases hphase
  | skip => cases hphase
  | visit _ _ _ hnext =>
    subst hnext
    cases hphase
    rfl
  | crash => cases hphase
  | succeed => cases hphase
  | giveUp =>
    unfold giveUp at hphase
    dsimp only at hphase
    split at hphase <;> cases hphase
  | pause => cases hphase
  | resume =>
    cases hphase
    rfl

end Call

/-! ## Moves that report for a call -/

/-- A probe makes no observation of a call. -/
lemma Cycle.not_isCallReport (setup : Setup σ) (w : World σ) (c : Cycle) (index : Nat) :
    ∀ deed ∈ c.deeds setup w index, ¬ deed.isCallReport = true := by
  intro deed hdeed
  unfold deeds at hdeed
  split at hdeed
  case h_1 => cases hdeed
  case h_2 probes _ =>
    split at hdeed
    case h_2 => cases hdeed
    case h_1 =>
      split at hdeed
      case h_1 => cases hdeed
      case h_2 =>
        split at hdeed
        · obtain rfl := List.mem_singleton.mp hdeed
          exact Bool.false_ne_true
        · obtain rfl := List.mem_singleton.mp hdeed
          exact Bool.false_ne_true

/-- Nobody but a call reports an observation of a call. -/
lemma Beat.exists_advance_of_reportsCall {setup : Setup σ} {b : Beat σ}
    (h : b.reportsCall setup = true) :
    ∃ id c, b.move = .advance id ∧ b.before.calls[id]? = some c := by
  obtain ⟨before, move, after, notes⟩ := b
  obtain ⟨deed, hdeed, hcall⟩ := List.any_eq_true.mp h
  cases move with
  | advance id =>
    cases hc : before.calls[id]? with
    | some c => exact ⟨id, c, rfl, hc⟩
    | none => simp [deeds, hc] at hdeed
  | probe id index =>
    cases hc : before.cycles[id]? with
    | none => simp [deeds, hc] at hdeed
    | some c =>
      simp only [deeds, hc, Option.map_some, Option.getD_some] at hdeed
      exact absurd hcall (c.not_isCallReport setup before.world index deed hdeed)
  | _ =>
    obtain rfl := deeds_of_not_isStep rfl hdeed
    cases hcall

namespace Traffic

variable {setup : Setup σ} {start s s' : Traffic σ} {beats : List (Beat σ)}

/-- The visits of a call that are over and the moves in which it reports something correspond to
each other one by one. -/
theorem Run.committed {settings : Settings} (hrun : Run setup start beats s)
    (hidle : start.calls = [])
    (hpolicy : setup.policy = .new settings.maxRetries settings.backoffUnit)
    (htransport : setup.transport.Faultless)
    (hfaultless : start.world.tracker.Faultless (log setup beats)) {id : Nat} {c : Call}
    (hc : s.calls[id]? = some c) :
    List.Forall₂ (Stop.CommittedBy setup id c.request)
      (c.visitsOver (itinerary setup id (ownBeats id beats)))
      ((ownBeats id beats).filter (Beat.reportsCall setup)) := by
  refine (hrun.own_induction (P := fun own c => c.At setup settings (itinerary setup id own) ∧
    List.Forall₂ (Stop.CommittedBy setup id c.request) (c.visitsOver (itinerary setup id own))
      (own.filter (Beat.reportsCall setup))) ?_ ?_ hidle hfaultless hc).2
  · intro request now
    exact ⟨Call.at_start request now, .nil⟩
  · rintro own b c c' ⟨hat, hcommitted⟩ hmove hc hstep hlog
    have htakes := Call.takes_of_step? hstep
    have hdeeds : b.deeds setup = c.deeds setup b.before.world := by
      simp [Beat.deeds, hmove, hc]
    have hrequest : c'.request = c.request := Call.request_of_takes htakes
    rw [Beat.log, hdeeds] at hlog
    have hat' := hat.after_step hpolicy htransport htakes hlog
    rw [itinerary_concat hc, List.filter_append, hrequest]
    refine ⟨hat', ?_⟩
    rcases hat.visitsOver_step htakes hat' with
      ⟨hsame, hquiet⟩ | ⟨stop, w, attempt, hmore, hsent, hphase, hdue, hdeed⟩
    · have hsilent : b.reportsCall setup = false := by
        rw [Beat.reportsCall, hdeeds, hquiet]
      rw [hsame, List.filter_cons_of_neg (by simp [hsilent]), List.filter_nil, List.append_nil]
      exact hcommitted
    · have htracker := Call.tracker_of_step? hstep
      rw [hdeed] at htracker
      rw [← hdeeds] at hdeed
      have hreports : b.reportsCall setup = true := by
        rw [Beat.reportsCall, hdeed]
        simp [Stop.isCallReport_deed]
      rw [hmore, List.filter_cons_of_pos hreports, List.filter_nil]
      refine List.rel_append hcommitted (.cons ?_ .nil)
      exact ⟨w, c, attempt, hsent, hmove, hc, hphase, hdue, hdeed, htracker⟩

/-- A call that makes a step in a run is one of its calls. -/
lemma Run.lt_length_calls (hrun : Run setup start beats s) {b : Beat σ} (hb : b ∈ beats) {id : Nat}
    (hmove : b.move = .advance id) : id < s.calls.length := by
  obtain ⟨before, later, rfl⟩ := List.append_of_mem hb
  refine hrun.after_beat (P := fun s => id < s.calls.length) ?_ ?_
  · obtain ⟨-, hnext, -⟩ := hrun.cut
    rw [hmove] at hnext
    obtain ⟨c, -, hc, -⟩ := next?_advance_eq_some hnext
    rw [← hmove] at hnext
    exact Nat.lt_of_lt_of_le (List.getElem?_eq_some_iff.mp hc).1 (length_calls_of_next? hnext)
  · intro s m s' notes hlt hnext
    exact Nat.lt_of_lt_of_le hlt (length_calls_of_next? hnext)

/-- What reports an observation of a call in a run is a step of one of its calls. -/
lemma Run.reporter (hrun : Run setup start beats s) {b : Beat σ} (hb : b ∈ beats)
    (hreports : b.reportsCall setup = true) : ∃ id < s.calls.length, b.move = .advance id := by
  obtain ⟨id, -, hmove, -⟩ := Beat.exists_advance_of_reportsCall hreports
  exact ⟨id, hrun.lt_length_calls hb hmove, hmove⟩

end Traffic

/-! ## Runs in which calls wake up in time -/

/-- Whether a call would still wait at a time for an attempt that has ended before. -/
def Call.oversleeps (c : Call) (time : Nat) : Bool :=
  match c.phase with
  | .waiting _ _ since settled => since + settled.after < time
  | _ => false

/-- Whether time does not pass beyond the end of an attempt that a call waits for. -/
def Beat.isPunctual (b : Beat σ) : Bool :=
  match b.move with
  | .elapse millis => b.before.calls.all fun c => !c.oversleeps (b.before.world.now + millis)
  | _ => true

namespace Traffic

variable {setup : Setup σ} {start s s' : Traffic σ} {beats : List (Beat σ)}

/-- In a punctual run no call waits for an attempt beyond its end. -/
lemma Run.now_le_of_waiting (hrun : Run setup start beats s) (hidle : start.calls = [])
    (hpunctual : ∀ b ∈ beats, b.isPunctual = true) {id : Nat} {c : Call}
    (hc : s.calls[id]? = some c) {index attempt since : Nat} {settled : Rpc.Settled}
    (hphase : c.phase = .waiting index attempt since settled) :
    s.world.now ≤ since + settled.after := by
  induction hrun generalizing id c index attempt since settled with
  | nil => simp [hidle] at hc
  | @snoc beats s m s' notes hrun hnext ih =>
    have hpast : ∀ b ∈ beats, b.isPunctual = true :=
      fun b hb => hpunctual b (List.mem_append_left _ hb)
    by_cases hm : ∃ millis, m = .elapse millis
    · obtain ⟨millis, rfl⟩ := hm
      have hlast := hpunctual _ (List.mem_append_right _ (List.mem_singleton_self _))
      cases hnext
      have hawake := List.all_eq_true.mp hlast c (List.mem_of_getElem? hc)
      simpa [Call.oversleeps, hphase] using hawake
    · rw [now_eq_of_next? hnext (not_exists.mp hm)]
      rcases calls_of_next? hnext hc with
        ⟨d, rfl, hd, hstep⟩ | ⟨request, rfl, -, rfl⟩ | ⟨-, hsame⟩
      · rw [Call.since_of_takes (Call.takes_of_step? hstep) hphase]
        exact Nat.le_add_right _ _
      · cases hphase
      · exact ih hpast hsame hphase

end Traffic

end Failover
