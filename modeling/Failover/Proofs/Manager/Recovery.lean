import Failover.Proofs.Manager.Report
import Failover.Proofs.Tracker.Overflow
import Failover.Proofs.Traffic.CoolDown
import Failover.Proofs.Traffic.Schedule

/-!
# Recovery

A probe cycle in which every endpoint gives a value in time restores all of them, once the breakers
have run out. The two halves have nothing to do with each other. A breaker is open for at most one
timeout after the latest failure (`Tracker.OpenUntilAtMost`), whatever was observed before and even
if endpoints share their URL, so a timeout without failures closes all of them. A probe that brings
a value leaves its endpoint healthy, and as long as nothing else is observed it stays so
(`Cycle.Bright`). A call that begins after that tries the first endpoint at once.
-/

namespace Failover

/-! ## How long breakers are open -/

namespace Tracker

/-- No breaker is open beyond a time, in nanoseconds of the monotonic clock. -/
def OpenUntilAtMost (t : Tracker) (bound : Nat) : Prop :=
  ∀ key endsAt, t.breakers.until? key = some endsAt → endsAt.nanos ≤ bound

/-- Whether a deed is the observation of a failure. -/
def Deed.isFailure : Deed → Bool
  | .failure .. => true
  | _ => false

/-- An entry of the table was there before, or a failure has just put it there. -/
lemma until?_eq_some_of_after {t : Tracker} {e : Entry} {key : String} {endsAt : Instant}
    (h : (t.after e).breakers.until? key = some endsAt) :
    t.breakers.until? key = some endsAt ∨
      (e.deed.isFailure = true ∧
        endsAt.nanos = e.time.instant.nanos + t.breakers.timeout.nanos) := by
  by_cases hfailure : e.deed.isFailure = true
  · obtain ⟨time, deed⟩ := e
    cases deed with
    | failure index endpoint observer =>
      by_cases hlt : index < t.records.length
      · rw [breakers_after_failure hlt] at h
        split at h
        case isFalse => exact Or.inl h
        case isTrue =>
          rw [BreakerTable.until?_insert] at h
          split at h
          case isFalse => exact Or.inl h
          case isTrue =>
            obtain rfl := Option.some.inj h
            exact Or.inr ⟨rfl, rfl⟩
      · have hnone : t.record? index = none := List.getElem?_eq_none_iff.mpr (Nat.le_of_not_lt hlt)
        rw [after, perform_of_record?_eq_none rfl hnone] at h
        exact Or.inl h
    | success index endpoint latency observer => cases hfailure
    | judge index endpoint isLast => cases hfailure
    | inquire endpoint => cases hfailure
    | survey registry => cases hfailure
  · left
    have htrips : t.trips key e = false := by
      obtain ⟨time, deed⟩ := e
      cases deed <;> first | rfl | exact absurd rfl hfailure
    cases hreleases : t.releases key e with
    | true =>
      rw [until?_after_of_releases hreleases] at h
      cases h
    | false =>
      rw [until?_after_of_neither htrips hreleases] at h
      split at h
      · exact (Option.filter_eq_some_iff.mp h).1
      · exact h

/-- A log whose failures are early enough opens no breaker beyond the time. -/
lemma OpenUntilAtMost.replay {t : Tracker} {bound : Nat} {log : Log} (h : t.OpenUntilAtMost bound)
    (hlog : ∀ e ∈ log, e.deed.isFailure = true →
      e.time.instant.nanos + t.breakers.timeout.nanos ≤ bound) :
    (t.replay log).OpenUntilAtMost bound := by
  induction log generalizing t with
  | nil => exact h
  | cons e rest ih =>
    refine ih ?_ ?_
    · intro key endsAt hentry
      rcases until?_eq_some_of_after hentry with hold | ⟨hfailure, hends⟩
      · exact h key endsAt hold
      · rw [hends]
        exact hlog e List.mem_cons_self hfailure
    · intro f hf hfailure
      rw [after_timeout]
      exact hlog f (List.mem_cons_of_mem e hf) hfailure

/-- When the time has come, every breaker is closed. -/
lemma OpenUntilAtMost.isOpen_eq_false {t : Tracker} {bound : Nat} {now : Instant}
    (h : t.OpenUntilAtMost bound) (hnow : bound ≤ now.nanos) (endpoint : Endpoint) :
    (t.isOpen now endpoint).1 = false := by
  rw [isOpen_fst]
  cases hentry : t.breakers.until? endpoint.url with
  | none => rfl
  | some endsAt =>
    have hends := h _ _ hentry
    have hpast : ¬ now.nanos < endsAt.nanos := by omega
    simp [Instant.before, hpast]

/-- The endpoint with an index is healthy, and no failure of it is counted. -/
def HealthyAt (t : Tracker) (index : Nat) : Prop :=
  (t.recordAt index).status = .healthy ∧ (t.recordAt index).consecutiveFailures = 0

/-- Whether an endpoint is healthy is a matter of the records alone. -/
lemma HealthyAt.of_records_eq {t u : Tracker} {index : Nat} (h : t.HealthyAt index)
    (hrecords : u.records = t.records) : u.HealthyAt index := by
  unfold HealthyAt recordAt record? at *
  rwa [hrecords]

/-- An observation elsewhere leaves a healthy endpoint healthy. -/
lemma HealthyAt.after_success {t : Tracker} {index : Nat} (h : t.HealthyAt index) (time : Reading)
    (i : Nat) (endpoint : Endpoint) (latency : Duration) (observer : Observer) :
    (t.after ⟨time, .success i endpoint latency observer⟩).HealthyAt index := by
  unfold HealthyAt recordAt at *
  rw [record?_after]
  cases hr : t.record? index with
  | none => simpa [hr] using h
  | some r =>
    rw [hr] at h
    by_cases hi : i = index
    · simp [Entry.observation?, Entry.observed?, hi, HealthRecord.observe]
    · simpa [Entry.observation?, Entry.observed?, hi] using h

/-- After a success an endpoint is healthy. -/
lemma healthyAt_after_success {t : Tracker} {index : Nat} (hlt : index < t.records.length)
    (time : Reading) (endpoint : Endpoint) (latency : Duration) (observer : Observer) :
    (t.after ⟨time, .success index endpoint latency observer⟩).HealthyAt index := by
  obtain ⟨r, hr⟩ := record?_of_lt hlt
  unfold HealthyAt recordAt
  rw [record?_after, hr]
  simp [Entry.observation?, Entry.observed?, HealthRecord.observe]

end Tracker

variable {σ : Type} {setup : Setup σ}

/-! ## Probes that bring values -/

/-- A probe has not been sent, waits for a value that comes in time, or has left its endpoint
healthy. -/
def ProbePhase.Bright (t : Tracker) (index : Nat) : ProbePhase → Prop
  | .unsent => True
  | .waiting _ settled => ∃ v, v ≠ .null ∧ settled.ending = .result (.ok v)
  | .done => t.HealthyAt index

/-- A value that comes in time is how the request ends. -/
lemma World.ending_of_value? {w : World σ} {endpoint : Endpoint} {request : Rpc.Request} {v : Json}
    (h : w.value? setup endpoint request = some v) :
    (w.send setup endpoint request).1.ending = .result (.ok v) := by
  unfold value? at h
  dsimp only at h
  unfold send Rpc.Answer.settle
  dsimp only
  split at h
  case isFalse => cases h
  case isTrue hin =>
    rw [if_pos hin]
    split at h
    case h_1 v' hreply =>
      obtain rfl := Option.some.inj h
      rw [hreply]
    case h_2 => cases h

/-- A probe takes any value but null for a success. -/
lemma Cycle.outcome_ok {v : Json} (hv : v ≠ .null) : outcome (.ok v) = .ok v := by
  unfold outcome
  split
  case h_1 hnull => exact absurd (Except.ok.inj hnull) hv
  case h_2 => rfl

namespace Cycle

/-- A cycle over all endpoints in which no probe fails. -/
structure Bright (setup : Setup σ) (method : String) (t : Tracker) (c : Cycle)
    (probes : List ProbePhase) : Prop where
  method_eq : c.method = method
  phase_eq : c.phase = .running probes
  length_eq : probes.length = setup.registry.size
  bright : ∀ (index : Nat) (probe : ProbePhase), probes[index]? = some probe → probe.Bright t index

variable {method : String} {w : World σ} {t u : Tracker} {c : Cycle} {probes : List ProbePhase}

/-- A cycle that has just begun is bright. -/
lemma bright_start (setup : Setup σ) (method : String) (t : Tracker) :
    (start method setup.registry.size).Bright setup method t
      (List.replicate setup.registry.size .unsent) where
  method_eq := rfl
  phase_eq := rfl
  length_eq := List.length_replicate
  bright := by
    intro index probe hprobe
    obtain rfl := (List.mem_replicate.mp (List.mem_of_getElem? hprobe)).2
    trivial

/-- What the records do not show does not matter to a cycle. -/
lemma Bright.of_healthy (h : c.Bright setup method t probes)
    (hkeep : ∀ index, t.HealthyAt index → u.HealthyAt index) : c.Bright setup method u probes where
  method_eq := h.method_eq
  phase_eq := h.phase_eq
  length_eq := h.length_eq
  bright := by
    intro index probe hprobe
    have hbright := h.bright index probe hprobe
    cases probe with
    | unsent => trivial
    | waiting since settled => exact hbright
    | done => exact hkeep index hbright

/-- One probe goes on and leaves the others as they are. -/
lemma Bright.setProbe (h : c.Bright setup method t probes) {index : Nat} {probe : ProbePhase}
    (hprobe : probe.Bright t index) :
    (c.setProbe probes index probe).Bright setup method t (probes.set index probe) where
  method_eq := h.method_eq
  phase_eq := rfl
  length_eq := by rw [List.length_set, h.length_eq]
  bright := by
    intro i other hother
    rw [List.getElem?_set] at hother
    split at hother
    case isTrue hi =>
      subst hi
      split at hother
      · obtain rfl := Option.some.inj hother
        exact hprobe
      · cases hother
    case isFalse => exact h.bright i other hother

/-- Every step of a cycle whose endpoints give values in time keeps it bright. -/
lemma Bright.step {index : Nat} {out : World σ × Cycle × Journal}
    (h : c.Bright setup method w.tracker probes)
    (hrecords : ∀ i < setup.registry.size, i < w.tracker.records.length)
    (hstep : c.stepAt? setup w index = some out)
    (hanswers : out.2.2.sendings ≠ [] → ∀ endpoint, setup.registry.get? index = some endpoint →
      ∃ v, v ≠ .null ∧ w.value? setup endpoint ⟨method, []⟩ = some v) :
    ∃ probes', out.2.1.Bright setup method out.1.tracker probes' := by
  have hvalue : ∀ {since : Nat} {settled : Rpc.Settled} {phase : List ProbePhase},
      c.phase = .running phase → phase[index]? = some (.waiting since settled) →
      ∃ v, v ≠ .null ∧ settled.ending = .result (.ok v) := by
    intro since settled phase hphase hprobe
    cases h.phase_eq.symm.trans hphase
    exact h.bright index _ hprobe
  cases takes_of_stepAt? hstep with
  | @send _ endpoint hphase hprobe hget =>
    cases h.phase_eq.symm.trans hphase
    obtain ⟨v, hv, hin⟩ := hanswers (List.cons_ne_nil _ _) endpoint hget
    have hrequest : c.request = ⟨method, []⟩ := by rw [request, h.method_eq]
    rw [hrequest]
    exact ⟨_, h.setProbe ⟨v, hv, World.ending_of_value? hin⟩⟩
  | crash hphase hprobe _ _ hending =>
    obtain ⟨v, -, hv⟩ := hvalue hphase hprobe
    cases hending.symm.trans hv
  | @succeed _ since _ endpoint _ _ _ hphase hprobe _ hget =>
    cases h.phase_eq.symm.trans hphase
    have hlt := hrecords index (List.getElem?_eq_some_iff.mp hget).1
    rw [World.recordSuccess_tracker]
    exact ⟨_, (h.of_healthy fun i hi => hi.after_success ..).setProbe
      (Tracker.healthyAt_after_success hlt ..)⟩
  | fail hphase hprobe _ _ hending houtcome =>
    obtain ⟨v, hv, hvalue⟩ := hvalue hphase hprobe
    cases hending.symm.trans hvalue
    rw [outcome_ok hv] at houtcome
    cases houtcome
  | overflow hphase hprobe _ _ hending houtcome =>
    obtain ⟨v, hv, hvalue⟩ := hvalue hphase hprobe
    cases hending.symm.trans hvalue
    rw [outcome_ok hv] at houtcome
    cases houtcome

/-- When a bright cycle is over, every endpoint is healthy. -/
lemma Bright.healthy_of_isOver (h : c.Bright setup method t probes) (hover : c.isOver = true)
    {index : Nat} (hindex : index < setup.registry.size) : t.HealthyAt index := by
  rw [← h.length_eq] at hindex
  have hprobe : probes[index]? = some probes[index] := List.getElem?_eq_getElem hindex
  have hbright := h.bright index _ hprobe
  unfold isOver at hover
  rw [h.phase_eq] at hover
  have hdone := List.all_eq_true.mp hover _ (List.getElem_mem hindex)
  cases hphase : probes[index] with
  | unsent => simp [hphase] at hdone
  | waiting since settled => simp [hphase] at hdone
  | done =>
    rw [hphase] at hbright
    exact hbright

end Cycle

namespace Traffic

variable {start s s' : Traffic σ} {beats : List (Beat σ)} {notes : Journal} {method : String}

/-- A move that observes nothing leaves the records alone. -/
lemma records_of_next? {m : Move σ} (h : s.next? setup m = some (s', notes))
    (hquiet : Beat.observes setup ⟨s, m, s', notes⟩ = false) :
    s'.world.tracker.records = s.world.tracker.records := by
  have hnothing : Tracker.observations (Beat.log setup ⟨s, m, s', notes⟩) = [] := by
    rw [Tracker.observations, List.filter_eq_nil_iff]
    intro e he
    obtain ⟨deed, hdeed, rfl⟩ := List.mem_map.mp he
    exact List.any_eq_false.mp hquiet deed hdeed
  obtain ⟨halike, -, -⟩ := (Tracker.Alike.refl s.world.tracker).replay_observations
    (Beat.log setup ⟨s, m, s', notes⟩)
  rw [hnothing, Tracker.replay_nil] at halike
  rw [tracker_of_next? h, halike.records]

/-- A run that observes nothing leaves the records alone. -/
lemma Run.records_eq (hrun : Run setup start beats s)
    (hquiet : ∀ b ∈ beats, b.observes setup = false) :
    s.world.tracker.records = start.world.tracker.records := by
  induction hrun with
  | nil => rfl
  | snoc _ hnext ih =>
    have hlast := hquiet _ (List.mem_append_right _ (List.mem_singleton_self _))
    rw [records_of_next? hnext hlast, ih fun b hb => hquiet b (List.mem_append_left _ hb)]

/-- As long as nothing but a cycle observes something and all endpoints give values in time, the
cycle stays bright. -/
lemma Run.bright (hrun : Run setup start beats s) {id : Nat}
    (hstart : ∃ c probes, start.cycles[id]? = some c ∧
      c.Bright setup method start.world.tracker probes)
    (hrecords : ∀ s beats, Run setup start beats s → ∀ i < setup.registry.size,
      i < s.world.tracker.records.length)
    (hprobing : ∀ b ∈ beats, b.observes setup = true → ∃ index, b.move = .probe id index)
    (hanswers : ∀ b ∈ beats, ∀ index endpoint, b.move = .probe id index →
      setup.registry.get? index = some endpoint → b.notes.sendings ≠ [] →
      ∃ v, v ≠ .null ∧ b.before.world.value? setup endpoint ⟨method, []⟩ = some v) :
    ∃ c probes, s.cycles[id]? = some c ∧ c.Bright setup method s.world.tracker probes := by
  induction hrun with
  | nil => exact hstart
  | @snoc beats s m s' notes hrun hnext ih =>
    obtain ⟨c, probes, hc, hbright⟩ := ih (fun b hb => hprobing b (List.mem_append_left _ hb))
      fun b hb => hanswers b (List.mem_append_left _ hb)
    have hlast : (⟨s, m, s', notes⟩ : Beat σ) ∈ beats ++ [⟨s, m, s', notes⟩] :=
      List.mem_append_right _ (List.mem_singleton_self _)
    rcases cycle_of_next? hc hnext with ⟨index, c', rfl, hstep, hc'⟩ | ⟨hother, hc'⟩
    · obtain ⟨probes', hbright'⟩ := hbright.step (hrecords s beats hrun) hstep
        fun hsends endpoint hget => hanswers _ hlast index endpoint rfl hget hsends
      exact ⟨c', probes', hc', hbright'⟩
    · have hquiet : Beat.observes setup ⟨s, m, s', notes⟩ = false := by
        by_contra hobserves
        obtain ⟨index, hm⟩ := hprobing _ hlast (by simpa using hobserves)
        exact hother index hm
      exact ⟨c, probes, hc',
        hbright.of_healthy fun i hi => hi.of_records_eq (records_of_next? hnext hquiet)⟩

/-- A run that observes nothing opens no breaker. -/
lemma Run.openUntilAtMost (hrun : Run setup start beats s) {bound : Nat}
    (hstart : start.world.tracker.OpenUntilAtMost bound)
    (hquiet : ∀ b ∈ beats, b.observes setup = false) :
    s.world.tracker.OpenUntilAtMost bound := by
  rw [hrun.tracker]
  refine hstart.replay ?_
  intro e he hfailure
  obtain ⟨b, hb, hmem⟩ := List.mem_flatMap.mp he
  obtain ⟨deed, hdeed, rfl⟩ := List.mem_map.mp hmem
  have hobserves := List.any_eq_false.mp (hquiet b hb) deed hdeed
  cases deed with
  | failure index endpoint observer => exact absurd rfl hobserves
  | success index endpoint latency observer => cases hfailure
  | judge index endpoint isLast => cases hfailure
  | inquire endpoint => cases hfailure
  | survey registry => cases hfailure

end Traffic

/-! ## The next call -/

/-- The first endpoint is the primary. -/
lemma Registry.get?_zero (registry : Registry) : registry.get? 0 = some registry.primary := by
  show registry.endpoints[0]? = _
  rw [← List.head?_eq_getElem?, List.head?_eq_some_head registry.nonempty]
  rfl

/-- A call that looks at an endpoint which it may try sends a request there at once. -/
lemma Call.look_of_admits {c : Call} {w : World σ} {index : Nat} {endpoint : Endpoint}
    (hphase : c.phase = .looking index) (hget : setup.registry.get? index = some endpoint)
    (hadmits : w.Admits setup index) :
    (c.look setup w index).2.2.sendings = [⟨w.now, endpoint.url, c.request⟩] ∧
      ∃ settled, (c.look setup w index).2.1.phase = .waiting index 0 w.now settled := by
  have htakes := takes_look setup w c hphase
  generalize c.look setup w index = out at htakes ⊢
  cases htakes with
  | exhaust hphase' hnone =>
    cases hphase.symm.trans hphase'
    cases hget.symm.trans hnone
  | skip hphase' hget' hforbids =>
    cases hphase.symm.trans hphase'
    obtain ⟨ep, hep, heligible⟩ := hadmits
    obtain rfl := Option.some.inj (hget'.symm.trans hep)
    simp [Eligibility.allows, heligible] at hforbids
  | visit hphase' hget' _ hnext hquiet =>
    cases hphase.symm.trans hphase'
    obtain rfl := Option.some.inj (hget.symm.trans hget')
    subst hnext
    refine ⟨?_, _, rfl⟩
    rw [Journal.sendings_append, hquiet]
    rfl
  | crash hphase' => cases hphase.symm.trans hphase'
  | succeed hphase' => cases hphase.symm.trans hphase'
  | giveUp hphase' => cases hphase.symm.trans hphase'
  | pause hphase' => cases hphase.symm.trans hphase'
  | resume hphase' => cases hphase.symm.trans hphase'

/-- A call that may try the first endpoint begins with a visit there. -/
lemma Traffic.exists_beginsVisit_zero {s : Traffic σ} (hadmits : s.world.Admits setup 0)
    (request : Rpc.Request) :
    ∃ (begun : Traffic σ) (b : Beat σ), s.next? setup (.call request) = some (begun, []) ∧
      b.before = begun ∧ begun.next? setup b.move = some (b.after, b.notes) ∧ b.BeginsVisit 0 ∧
      b.notes.sendings = [⟨s.world.now, setup.registry.primary.url, request⟩] := by
  let c := Call.start request s.world.now
  let begun : Traffic σ := { s with calls := s.calls ++ [c] }
  have hc : begun.calls[s.calls.length]? = some c := List.getElem?_concat_length
  have hstep : c.step? setup begun.world = some (c.look setup s.world 0) := rfl
  have hnext := next?_advance_of_step? hc hstep
  obtain ⟨hsends, settled, hwaiting⟩ := Call.look_of_admits (c := c) rfl
    setup.registry.get?_zero hadmits
  refine ⟨begun, ⟨begun, .advance s.calls.length, _, _⟩, rfl, rfl, hnext, ?_, hsends⟩
  refine ⟨_, c, (c.look setup s.world 0).2.1, settled, rfl, hc, rfl, ?_, hwaiting⟩
  exact List.getElem?_set_self (List.getElem?_eq_some_iff.mp hc).1

namespace Manager

/-- What a manager sends first for a call goes to the first endpoint if this may be tried. -/
lemma head?_sendings_call {m : Manager σ} (hadmits : m.world.Admits m.setup 0)
    (request : Rpc.Request) :
    (m.call request).2.2.sendings.head? =
      some ⟨m.world.now, m.setup.registry.primary.url, request⟩ := by
  obtain ⟨hsends, -⟩ := Call.look_of_admits (Call.start_phase request m.world.now)
    m.setup.registry.get?_zero hadmits
  have hlimit : stepLimit = 999999999998 + 1 + 1 := rfl
  rw [call_eq_callWithin, callWithin, hlimit, drive_call,
    drive_looking (Call.start_phase request m.world.now)]
  dsimp only
  obtain ⟨more, hmore⟩ := exists_drive_eq_append 999999999998 _ _ _
  rw [hmore, List.append_nil, List.reverse_reverse, Journal.sendings_append, hsends]
  rfl

end Manager

/-! ## The law -/

namespace Traffic

variable {s s₀ s₁ s₂ : Traffic σ} {before during later : List (Beat σ)} {notes : Journal}
  {method : String}

/-- What a manager finds when all of its endpoints have recovered. -/
structure Restored (m : Manager σ) (s : Traffic σ) : Prop where
  healthy : ∀ index < m.setup.registry.size, ∃ r, s.world.tracker.record? index = some r ∧
    r.status = .healthy ∧ r.consecutiveFailures = 0
  closed : ∀ endpoint, (s.world.tracker.isOpen (s.reading m.setup).instant endpoint).1 = false
  usable : ∀ prober,
    ({ m with world := s.world, prober := prober } : Manager σ).status.1.usableCount =
      m.endpointCount
  /-- A call that begins now, next to whatever else goes on, sends its first request at once and to
  the first endpoint. -/
  visits : ∀ request, ∃ (begun : Traffic σ) (b : Beat σ),
    s.next? m.setup (.call request) = some (begun, []) ∧ b.before = begun ∧
      begun.next? m.setup b.move = some (b.after, b.notes) ∧ b.BeginsVisit 0 ∧
      b.notes.sendings = [⟨s.world.now, m.setup.registry.primary.url, request⟩]
  /-- What the owner of the manager sends first for a call goes there as well. -/
  sends : ∀ prober request,
    (({ m with world := s.world, prober := prober } : Manager σ).call request).2.2.sendings.head? =
      some ⟨s.world.now, m.setup.registry.primary.url, request⟩

/-- Healthy records behind closed breakers are all that a recovery takes. -/
lemma restored_of_healthy {m : Manager σ}
    (hhealthy : ∀ index < m.setup.registry.size, ∃ r, s.world.tracker.record? index = some r ∧
      r.status = .healthy ∧ r.consecutiveFailures = 0)
    (hclosed : ∀ endpoint,
      (s.world.tracker.isOpen (s.reading m.setup).instant endpoint).1 = false) :
    Restored m s := by
  have heligible : ∀ index < m.setup.registry.size, ∀ endpoint isLast,
      (s.world.tracker.eligibility (s.reading m.setup).instant index endpoint isLast).1 =
        .eligible := by
    intro index hindex endpoint isLast
    obtain ⟨r, hr, hstatus, -⟩ := hhealthy index hindex
    rw [Tracker.eligibility_fst, Eligibility.judge_eq_eligible_iff]
    refine ⟨hclosed endpoint, Or.inl ?_⟩
    rw [Tracker.recordAt_of_record? hr, hstatus]
    exact nofun
  have hadmits : s.world.Admits m.setup 0 :=
    ⟨_, m.setup.registry.get?_zero, heligible 0 m.setup.registry.size_pos _ _⟩
  constructor
  case healthy => exact hhealthy
  case closed => exact hclosed
  case usable =>
    intro prober
    let now : Manager σ := { m with world := s.world, prober := prober }
    have hall : ∀ entry ∈ now.status.1.endpoints, entry.isUsable = true := by
      intro entry hentry
      obtain ⟨index, hat⟩ := List.mem_iff_getElem?.mp hentry
      rw [Manager.getElem?_status] at hat
      obtain ⟨endpoint, hget, rfl⟩ := Option.map_eq_some_iff.mp hat
      have hindex : index < m.setup.registry.size := (List.getElem?_eq_some_iff.mp hget).1
      exact (Manager.isUsable_statusOf_iff ..).mpr (heligible index hindex endpoint false)
    have hcount : now.status.1.usableCount = now.status.1.endpoints.length :=
      List.countP_eq_length.mpr hall
    rw [hcount, Manager.length_status]
    rfl
  case visits => exact exists_beginsVisit_zero hadmits
  case sends =>
    intro prober request
    exact Manager.head?_sendings_call (m := { m with world := s.world, prober := prober }) hadmits
      request

/-- **A probe cycle restores all endpoints.** From whatever state a run has led to: a probe cycle
begins, every endpoint to which it sends a probe answers with a value other than null within its
deadline, the cycle comes to its end, and until one breaker timeout after that nothing is observed
but by this cycle. Then every endpoint is healthy without a failure counted, no breaker is open,
every endpoint is usable, and the next call tries the first endpoint first. Calls may be on their
way all the time, and reports be asked for, as long as they observe nothing. -/
theorem probe_cycle_restores_endpoints {configs : List EndpointConfig} {settings : Settings}
    {transport : Rpc.Transport σ} {wire : σ} {clock : Clock} {draw : Nat → Nat} {m : Manager σ}
    {built : Journal} {c : Cycle}
    (hbuild : Manager.build configs settings transport wire clock draw = .ok (m, built))
    (hbefore : Run m.setup (idle m.world) before s₀)
    (hstart : s₀.next? m.setup (.cycle method) = some (s₁, notes))
    (hduring : Run m.setup s₁ during s₂)
    (hprobing : ∀ b ∈ during, b.observes m.setup = true →
      ∃ index, b.move = .probe s₀.cycles.length index)
    (hanswers : ∀ b ∈ during, ∀ index endpoint, b.move = .probe s₀.cycles.length index →
      m.setup.registry.get? index = some endpoint → b.notes.sendings ≠ [] →
      ∃ v, v ≠ .null ∧ b.before.world.value? m.setup endpoint ⟨method, []⟩ = some v)
    (hend : s₂.cycles[s₀.cycles.length]? = some c) (hover : c.isOver = true)
    (hlater : Run m.setup s₂ later s) (hquiet : ∀ b ∈ later, b.observes m.setup = false)
    (htime : (s₂.reading m.setup).instant.nanos + settings.breakerTimeout.nanos ≤
      (s.reading m.setup).instant.nanos) :
    Restored m s := by
  obtain ⟨-, registry, -, rfl, -⟩ := Manager.build_eq_ok_iff.mp hbuild
  let m := Manager.fresh registry settings transport wire clock draw
  have hrun : Run m.setup (idle m.world) (before ++ [⟨s₀, .cycle method, s₁, notes⟩]) s₁ :=
    hbefore.snoc hstart
  have hrecords : ∀ s beats, Run m.setup s₁ beats s → ∀ i < m.setup.registry.size,
      i < s.world.tracker.records.length := by
    intro s beats hbeats i hi
    rw [(hrun.append hbeats).tracker]
    exact Tracker.lt_length_records_replay_new _ _ hi _
  have hbegun : s₁.cycles[s₀.cycles.length]? =
      some (Cycle.start method m.setup.registry.size) := by
    cases hstart
    exact List.getElem?_concat_length
  -- the probes leave the records healthy, and nothing touches them after that
  obtain ⟨c', probes, hc', hbright⟩ := hduring.bright
    ⟨_, _, hbegun, Cycle.bright_start m.setup method s₁.world.tracker⟩ hrecords hprobing hanswers
  obtain rfl := Option.some.inj (hend.symm.trans hc')
  refine restored_of_healthy ?_ ?_
  · intro index hindex
    obtain ⟨r, hr⟩ := Tracker.record?_of_lt (hrecords s₂ during hduring index hindex)
    obtain ⟨hstatus, hfailures⟩ := hbright.healthy_of_isOver hover hindex
    rw [Tracker.recordAt_of_record? hr] at hstatus hfailures
    refine ⟨r, ?_, hstatus, hfailures⟩
    rw [Tracker.record?, hlater.records_eq hquiet]
    exact hr
  -- no failure is later than the end of the cycle, so no breaker outlasts one timeout from there
  · have hall := hrun.append hduring
    have hopen : s₂.world.tracker.OpenUntilAtMost
        ((s₂.reading m.setup).instant.nanos + settings.breakerTimeout.nanos) := by
      have hnone : m.world.tracker.OpenUntilAtMost
          ((s₂.reading m.setup).instant.nanos + settings.breakerTimeout.nanos) := by
        intro key endsAt hentry
        cases hentry
      rw [hall.tracker]
      refine hnone.replay ?_
      intro e he _
      exact Nat.add_le_add_right (hall.log_le e he) _
    intro endpoint
    exact (hlater.openUntilAtMost hopen hquiet).isOpen_eq_false htime endpoint

/-- Two endpoints that a call has found failing, so that both are unhealthy and behind open
breakers. Then they answer the probes of a cycle after five milliseconds, and a minute after that
both are usable and a call goes to the first one. -/
theorem probe_cycle_restores_endpoints_after_two_failures :
    let settings :=
      { Settings.standard with
        healthChecksEnabled := false, maxRetries := 1, breakerThreshold := 1 }
    let waking : Rpc.Transport Nat :=
      ⟨fun n _ _ =>
        (⟨5, .result (if 2 ≤ n then .ok (.bool true) else .error .emptyResult)⟩, n + 1)⟩
    ∃ m built before during later s₀ s₁ s₂ s c,
      Manager.build [.ofUrl "http://a", .ofUrl "http://b"] settings waking 0 .standard
        (fun _ => 0) = .ok (m, built) ∧
      Run m.setup (idle m.world) before s₀ ∧ s₀.next? m.setup (.cycle "probe") = some (s₁, []) ∧
      Run m.setup s₁ during s₂ ∧ s₂.cycles[s₀.cycles.length]? = some c ∧ c.isOver = true ∧
      Run m.setup s₂ later s ∧ (∀ b ∈ later, b.observes m.setup = false) ∧
      (∀ index < 2, (s₀.world.tracker.recordAt index).status = .unhealthy ∧
        ∀ endpoint, m.setup.registry.get? index = some endpoint →
          (s₀.world.tracker.isOpen (s₂.reading m.setup).instant endpoint).1 = true) ∧
      ({ m with world := s₂.world } : Manager Nat).status.1.usableCount = 0 ∧
      ({ m with world := s.world } : Manager Nat).status.1.usableCount = 2 ∧ Restored m s := by
  intro settings waking
  have hregistry : Registry.ofConfigs [.ofUrl "http://a", .ofUrl "http://b"] = .ok _ :=
    Registry.ofConfigs_of_ordered (List.cons_ne_nil _ _) (by decide)
  let m := Manager.fresh ⟨[.ofUrl "http://a", .ofUrl "http://b"].map Endpoint.ofConfig, by simp,
    by decide⟩ settings waking 0 .standard fun _ => 0
  have hbuild : Manager.build [.ofUrl "http://a", .ofUrl "http://b"] settings waking 0 .standard
      (fun _ => 0) = .ok (m, _) := Manager.build_eq_ok_iff.mpr ⟨rfl, _, hregistry, rfl, rfl⟩
  let failed := play m.setup ([], idle m.world)
    [.call ⟨"ping", []⟩, .advance 0, .elapse 5, .advance 0, .advance 0, .elapse 5, .advance 0,
      .advance 0]
  let begun : Traffic Nat :=
    { failed.2 with cycles := failed.2.cycles ++ [Cycle.start "probe" m.setup.registry.size] }
  let probed := play m.setup ([], begun)
    [.probe 0 0, .probe 0 1, .elapse 5, .report, .probe 0 1, .probe 0 0]
  let waited := play m.setup ([], probed.2) [.elapse 60000]
  have hbefore : Run m.setup (idle m.world) failed.1 failed.2 := Run.nil.play _
  have hstart : failed.2.next? m.setup (.cycle "probe") = some (begun, []) := rfl
  have hduring : Run m.setup begun probed.1 probed.2 := Run.nil.play _
  have hlater : Run m.setup probed.2 waited.1 waited.2 := Run.nil.play _
  have hcycle := List.getElem?_eq_getElem (l := probed.2.cycles) (i := failed.2.cycles.length)
    (by decide)
  have hall : ∀ c ∈ probed.2.cycles, c.isOver = true := by decide
  have hover := hall _ (List.mem_of_getElem? hcycle)
  have hquiet : ∀ b ∈ waited.1, b.observes m.setup = false := by decide
  have hrestored : Restored m waited.2 := by
    refine probe_cycle_restores_endpoints hbuild hbefore hstart hduring ?_ ?_ hcycle hover hlater
      hquiet (by decide)
    · have hmoves : ∀ b ∈ probed.1, b.observes m.setup = true →
          b.move.probes failed.2.cycles.length = true := by decide
      intro b hb hobserves
      exact Move.probes_iff.mp (hmoves b hb hobserves)
    · have hwire : ∀ b ∈ probed.1, 2 ≤ b.before.world.wire := by decide
      have hdeadlines : ∀ endpoint ∈ m.setup.registry.endpoints,
          5 ≤ endpoint.timeout.timerMillis := by decide
      intro b hb index endpoint _ hget _
      have hin := hdeadlines endpoint (List.mem_of_getElem? hget)
      refine ⟨.bool true, nofun, ?_⟩
      simp [World.value?, m, Manager.fresh, waking, hin, hwire b hb]
  refine ⟨m, _, _, _, _, _, _, _, _, _, hbuild, hbefore, hstart, hduring, hcycle, hover, hlater,
    hquiet, by decide, by decide, hrestored.usable none, hrestored⟩

end Traffic

end Failover
