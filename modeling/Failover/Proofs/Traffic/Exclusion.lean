import Failover.Proofs.Tracker.History
import Failover.Proofs.Traffic.Walk

/-!
# Exclusion without probes

The breaker of an unhealthy endpoint runs out, but this does not bring the endpoint back: its record
stays unhealthy, and a call passes over an unhealthy endpoint unless it is the last one. Only an
observation could change the record, and without probes only a call that is at the endpoint could
make one (`Call.visits?`). So none ever gets there again, however much time passes.
-/

namespace Failover

variable {σ : Type} {setup : Setup σ} {w : World σ} {index : Nat}

namespace Tracker

/-- A log that does not observe an index leaves its record alone. -/
lemma record?_replay_of_unobserved (t : Tracker) {log : Log}
    (h : ∀ e ∈ log, e.observation? index = none) :
    (t.replay log).record? index = t.record? index := by
  rw [record?_replay, history, List.filterMap_eq_nil_iff.mpr h]
  simp

end Tracker

/-! ## A call and the endpoint at which it is -/

namespace Call

variable {c : Call} {out : World σ × Call × Journal}

/-- The index of the endpoint that a call is trying, on its way there or in a pause. -/
def visits? (c : Call) : Option Nat :=
  match c.phase with
  | .waiting index .. => some index
  | .pausing index .. => some index
  | _ => none

/-- A call observes only the endpoint at which it is. -/
lemma visits?_of_observation? {deed : Tracker.Deed} {time : Reading} {o : Observation}
    (hdeed : deed ∈ c.deeds setup w)
    (ho : (⟨time, deed⟩ : Tracker.Entry).observation? index = some o) :
    c.visits? = some index := by
  have hindex := Tracker.Entry.observed?_of_observation? ho
  unfold deeds at hdeed
  split at hdeed
  case h_1 =>
    split at hdeed
    case h_1 =>
      obtain rfl := List.mem_singleton.mp hdeed
      cases hindex
    case h_2 => cases hdeed
  case h_2 hphase =>
    rw [visits?, hphase]
    split at hdeed
    case h_1 =>
      obtain rfl := List.mem_singleton.mp hdeed
      cases hindex
      rfl
    case h_2 =>
      split at hdeed
      case isTrue => cases hdeed
      case isFalse =>
        obtain rfl := List.mem_singleton.mp hdeed
        cases hindex
        rfl
    case h_3 => cases hdeed
  case h_3 => cases hdeed

/-- A call that is at an endpoint was there before its step, or has just been let in. -/
lemma visits?_of_takes (h : c.Takes setup w out) (hvisits : out.2.1.visits? = some index) :
    c.visits? = some index ∨
      ∃ endpoint, (w.eligibility setup index endpoint).1.allows = true := by
  cases h with
  | exhaust => cases hvisits
  | skip => cases hvisits
  | visit hphase hget hallows =>
    cases hvisits
    exact Or.inr ⟨_, hallows⟩
  | crash => cases hvisits
  | succeed => cases hvisits
  | giveUp hphase =>
    unfold giveUp at hvisits
    dsimp only at hvisits
    split at hvisits <;> cases hvisits
  | pause hphase =>
    cases hvisits
    left
    simp [Call.visits?, hphase]
  | resume hphase =>
    cases hvisits
    left
    simp [Call.visits?, hphase]

/-- What a step of a call sends goes to the endpoint at which the call is after it. -/
lemma sending_of_takes (h : c.Takes setup w out) {sending : Sending}
    (hsending : sending ∈ out.2.2.sendings) :
    ∃ other endpoint attempt since settled, setup.registry.get? other = some endpoint ∧
      out.2.1.phase = .waiting other attempt since settled ∧ sending.url = endpoint.url := by
  cases h with
  | exhaust => simp [sendings_exhaust] at hsending
  | skip hphase hget hforbids hquiet => simp [hquiet] at hsending
  | visit hphase hget hallows hnext hquiet =>
    rw [Journal.sendings_append, hquiet, List.nil_append, sendings_attempt,
      List.mem_singleton] at hsending
    subst hsending
    exact ⟨_, _, _, _, _, hget, rfl, rfl⟩
  | crash => cases hsending
  | succeed => simp [sendings_succeed] at hsending
  | giveUp => simp [sendings_giveUp] at hsending
  | pause => simp at hsending
  | resume hphase _ hget =>
    rw [sendings_attempt, List.mem_singleton] at hsending
    subst hsending
    exact ⟨_, _, _, _, _, hget, rfl, rfl⟩

end Call

/-- A cycle that is over makes no step. -/
lemma Cycle.stepAt?_of_isOver {c : Cycle} (hover : c.isOver = true) (index : Nat) :
    c.stepAt? setup w index = none := by
  unfold isOver at hover
  unfold stepAt?
  split at hover
  case h_2 hphase => rw [hphase]
  case h_1 probes hphase =>
    rw [hphase]
    have hdone : ∀ probe, probes[index]? = some probe → probe = .done := by
      intro probe hprobe
      have h := List.all_eq_true.mp hover _ (List.mem_of_getElem? hprobe)
      cases probe <;> simp_all
    dsimp only
    split
    case h_1 hprobe _ => cases hdone _ hprobe
    case h_2 hprobe _ => cases hdone _ hprobe
    case h_3 => rfl

/-- An unhealthy endpoint other than the last one is let in by no look at it. -/
lemma World.allows_of_unhealthy (hunhealthy : (w.tracker.recordAt index).status = .unhealthy)
    (hlast : setup.registry.isLast index = false) (endpoint : Endpoint) :
    (w.eligibility setup index endpoint).1.allows = false := by
  have hverdict : (w.eligibility setup index endpoint).1 ≠ .eligible := by
    show (w.tracker.eligibility _ _ _ _).1 ≠ _
    rw [Tracker.eligibility_fst, hlast, hunhealthy, ne_eq, Eligibility.judge_eq_eligible_iff]
    simp
  simp [Eligibility.allows, hverdict]

/-! ## A run without probes -/

/-- Whether a probe cycle begins. -/
def Move.beginsCycle : Move σ → Bool
  | .cycle _ => true
  | _ => false

/-- A move sends a request of a call to the endpoint with an index. -/
def Beat.SendsTo (b : Beat σ) (index : Nat) : Prop :=
  ∃ id c attempt since settled, b.move = .advance id ∧ b.after.calls[id]? = some c ∧
    c.phase = .waiting index attempt since settled

namespace Traffic

variable {s s' : Traffic σ} {beats later : List (Beat σ)} {notes : Journal} {m : Move σ}

/-- Nothing that has begun is still on its way: all calls and all cycles have come to their end, or
are dropped and move no more. -/
structure AtRest (s : Traffic σ) (later : List (Beat σ)) : Prop where
  calls : ∀ id c, s.calls[id]? = some c →
    c.result?.isSome ∨ ∀ b ∈ later, b.move ≠ .advance id
  cycles : ∀ id c, s.cycles[id]? = some c →
    c.isOver = true ∨ ∀ b ∈ later, ∀ index, b.move ≠ .probe id index

/-- Nobody who moves is at the endpoint with an index or probes it, and its record is as it was. -/
structure KeptOut (index : Nat) (kept : Option HealthRecord) (later : List (Beat σ))
    (s : Traffic σ) : Prop where
  record_eq : s.world.tracker.record? index = kept
  calls : ∀ id c, s.calls[id]? = some c →
    c.visits? ≠ some index ∨ ∀ b ∈ later, b.move ≠ .advance id
  cycles : ∀ id c, s.cycles[id]? = some c →
    c.isOver = true ∨ ∀ b ∈ later, ∀ index, b.move ≠ .probe id index

lemma AtRest.keptOut (h : s.AtRest later) (index : Nat) :
    s.KeptOut index (s.world.tracker.record? index) later where
  record_eq := rfl
  calls := by
    intro id c hc
    refine (h.calls id c hc).imp_left ?_
    intro hended hvisits
    unfold Call.result? at hended
    unfold Call.visits? at hvisits
    cases hphase : c.phase with
    | looking i => simp [hphase] at hvisits
    | ended r => simp [hphase] at hvisits
    | waiting i attempt since settled => simp [hphase] at hended
    | pausing i attempt endsAt => simp [hphase] at hended
  cycles := h.cycles

namespace KeptOut

variable {kept : Option HealthRecord}

/-- A cycle that is over or dropped does not move. -/
lemma move_ne_probe (h : s.KeptOut index kept later) (hnext : s.next? setup m = some (s', notes))
    (hmem : ⟨s, m, s', notes⟩ ∈ later) (id i : Nat) : m ≠ .probe id i := by
  rintro rfl
  obtain ⟨c, c', hc, hstep, -, -⟩ := next?_probe_eq_some hnext
  rcases h.cycles id c hc with hover | hdropped
  · rw [Cycle.stepAt?_of_isOver hover] at hstep
    cases hstep
  · exact hdropped _ hmem i rfl

/-- A call that moves is not at the endpoint. -/
lemma visits?_ne (h : s.KeptOut index kept later) {id : Nat} {c : Call}
    (hmem : ⟨s, .advance id, s', notes⟩ ∈ later) (hc : s.calls[id]? = some c) :
    c.visits? ≠ some index := by
  rcases h.calls id c hc with haway | hdropped
  · exact haway
  · exact absurd rfl (hdropped _ hmem)

/-- No move observes the endpoint. -/
lemma observation?_eq_none (h : s.KeptOut index kept later)
    (hnext : s.next? setup m = some (s', notes)) (hmem : ⟨s, m, s', notes⟩ ∈ later) :
    ∀ e ∈ Beat.log setup ⟨s, m, s', notes⟩, e.observation? index = none := by
  intro e he
  obtain ⟨deed, hdeed, rfl⟩ := List.mem_map.mp he
  cases m with
  | advance id =>
    obtain ⟨c, c', hc, -, -, -⟩ := next?_advance_eq_some hnext
    simp only [Beat.deeds, hc, Option.map_some, Option.getD_some] at hdeed
    rw [Option.eq_none_iff_forall_ne_some]
    intro o ho
    exact h.visits?_ne hmem hc (Call.visits?_of_observation? hdeed ho)
  | probe id i => exact absurd rfl (h.move_ne_probe hnext hmem id i)
  | _ =>
    obtain rfl := Beat.deeds_of_not_isStep rfl hdeed
    rfl

/-- A call that goes to the endpoint in a move was let in. -/
lemma allows_of_visits? (h : s.KeptOut index kept later) {id : Nat} {c' : Call}
    (hnext : s.next? setup (.advance id) = some (s', notes))
    (hmem : ⟨s, .advance id, s', notes⟩ ∈ later) (hc' : s'.calls[id]? = some c')
    (hvisits : c'.visits? = some index) :
    ∃ endpoint, (s.world.eligibility setup index endpoint).1.allows = true := by
  rcases calls_of_next? hnext hc' with ⟨c, -, hc, hstep⟩ | ⟨request, hm, -⟩ | ⟨hm, -⟩
  · rcases Call.visits?_of_takes (Call.takes_of_step? hstep) hvisits with hthere | hallows
    · exact absurd hthere (h.visits?_ne hmem hc)
    · exact hallows
  · cases hm
  · exact absurd rfl hm

/-- Nobody is let in as long as the endpoint is unhealthy and not the last one. -/
lemma next (h : s.KeptOut index kept later)
    (hunhealthy : (kept.getD .initial).status = .unhealthy)
    (hlast : setup.registry.isLast index = false) (hnext : s.next? setup m = some (s', notes))
    (hmem : ⟨s, m, s', notes⟩ ∈ later) (hcycle : m.beginsCycle = false) :
    s'.KeptOut index kept later where
  record_eq := by
    rw [tracker_of_next? hnext,
      Tracker.record?_replay_of_unobserved _ (h.observation?_eq_none hnext hmem), h.record_eq]
  calls := by
    intro id c' hc'
    by_cases hm : m = .advance id
    · subst hm
      left
      intro hvisits
      obtain ⟨endpoint, hallows⟩ := h.allows_of_visits? hnext hmem hc' hvisits
      rw [← h.record_eq] at hunhealthy
      rw [World.allows_of_unhealthy hunhealthy hlast] at hallows
      cases hallows
    · rcases calls_of_next? hnext hc' with ⟨c, hm', -⟩ | ⟨request, -, -, rfl⟩ | ⟨-, hc⟩
      · exact absurd hm' hm
      · exact Or.inl nofun
      · exact h.calls id c' hc
  cycles := by
    have hsame : s'.cycles = s.cycles := by
      cases m with
      | advance id =>
        obtain ⟨-, -, -, -, -, hcycles⟩ := next?_advance_eq_some hnext
        exact hcycles
      | probe id i => exact absurd rfl (h.move_ne_probe hnext hmem id i)
      | cycle method => cases hcycle
      | call request =>
        cases hnext
        rfl
      | report =>
        cases hnext
        rfl
      | elapse millis =>
        cases hnext
        rfl
      | rewire change =>
        cases hnext
        rfl
    rw [hsame]
    exact h.cycles

/-- What a move sends goes to another endpoint. -/
lemma sends_elsewhere (h : s.KeptOut index kept later)
    (hunhealthy : (kept.getD .initial).status = .unhealthy)
    (hlast : setup.registry.isLast index = false) (hnext : s.next? setup m = some (s', notes))
    (hmem : ⟨s, m, s', notes⟩ ∈ later) :
    ¬ Beat.SendsTo ⟨s, m, s', notes⟩ index ∧ ∀ sending ∈ notes.sendings,
      ∃ other endpoint, other ≠ index ∧ setup.registry.get? other = some endpoint ∧
        Beat.SendsTo ⟨s, m, s', notes⟩ other ∧ sending.url = endpoint.url := by
  have hnever : ¬ Beat.SendsTo ⟨s, m, s', notes⟩ index := by
    rintro ⟨id, c', attempt, since, settled, rfl, hc', hphase⟩
    have hvisits : c'.visits? = some index := by rw [Call.visits?, hphase]
    obtain ⟨endpoint, hallows⟩ := h.allows_of_visits? hnext hmem hc' hvisits
    rw [← h.record_eq] at hunhealthy
    rw [World.allows_of_unhealthy hunhealthy hlast] at hallows
    cases hallows
  refine ⟨hnever, ?_⟩
  intro sending hsending
  cases m with
  | advance id =>
    obtain ⟨c, c', hc, hstep, hcalls, -⟩ := next?_advance_eq_some hnext
    obtain ⟨other, endpoint, attempt, since, settled, hget, hphase, hurl⟩ :=
      Call.sending_of_takes (Call.takes_of_step? hstep) hsending
    have hc' : s'.calls[id]? = some c' := by
      rw [hcalls, List.getElem?_set_self (List.getElem?_eq_some_iff.mp hc).1]
    have hsends : Beat.SendsTo ⟨s, .advance id, s', notes⟩ other :=
      ⟨id, c', attempt, since, settled, rfl, hc', hphase⟩
    refine ⟨other, endpoint, ?_, hget, hsends, hurl⟩
    rintro rfl
    exact hnever hsends
  | probe id i => exact absurd rfl (h.move_ne_probe hnext hmem id i)
  | _ =>
    rw [(onlyEvents_of_next? hnext rfl).sendings] at hsending
    cases hsending

end KeptOut

/-- In a run in which no cycle begins, an endpoint that is kept out at the start is kept out all the
time. -/
lemma Run.keptOut {kept : Option HealthRecord} (hrun : Run setup s beats s')
    (h : s.KeptOut index kept later) (hunhealthy : (kept.getD .initial).status = .unhealthy)
    (hlast : setup.registry.isLast index = false) (hmem : ∀ b ∈ beats, b ∈ later)
    (hcycle : ∀ b ∈ later, b.move.beginsCycle = false) :
    s'.KeptOut index kept later ∧ ∀ b ∈ beats, ¬ b.SendsTo index ∧
      ∀ sending ∈ b.notes.sendings, ∃ other endpoint, other ≠ index ∧
        setup.registry.get? other = some endpoint ∧ b.SendsTo other ∧
        sending.url = endpoint.url := by
  induction hrun with
  | nil => exact ⟨h, nofun⟩
  | @snoc beats t m t' notes _ hnext ih =>
    obtain ⟨hbefore, hpast⟩ := ih fun b hb => hmem b (List.mem_append_left _ hb)
    have hlater : ⟨t, m, t', notes⟩ ∈ later :=
      hmem _ (List.mem_append_right _ (List.mem_singleton_self _))
    refine ⟨hbefore.next hunhealthy hlast hnext hlater (hcycle _ hlater), ?_⟩
    intro b hb
    rcases List.mem_append.mp hb with hb | hb
    · exact hpast b hb
    · obtain rfl := List.mem_singleton.mp hb
      exact hbefore.sends_elsewhere hunhealthy hlast hnext hlater

/-- **Without probes an unhealthy endpoint never comes back.** Whatever has led to it: an endpoint
other than the last one is unhealthy, and no call and no probe is on its way. As long as no probe
cycle begins, whatever calls and reports follow and however much time passes, its record stays as it
is, no call sends anything to it, and all that is sent goes to other endpoints. At no instant would
it be let in: once its breaker is not open, because it is unhealthy. -/
theorem unhealthy_endpoint_stays_out
    (hunhealthy : (s.world.tracker.recordAt index).status = .unhealthy)
    (hlast : setup.registry.isLast index = false) (hrest : s.AtRest later)
    (hrun : Run setup s later s') (hcycle : ∀ b ∈ later, b.move.beginsCycle = false) :
    s'.world.tracker.record? index = s.world.tracker.record? index ∧
    (∀ b ∈ later, ¬ b.SendsTo index ∧
      ∀ sending ∈ b.notes.sendings, ∃ other endpoint, other ≠ index ∧
        setup.registry.get? other = some endpoint ∧ b.SendsTo other ∧
        sending.url = endpoint.url) ∧
    ∀ now endpoint, (s'.world.tracker.eligibility now index endpoint false).1 =
      if (s'.world.tracker.isOpen now endpoint).1 then .breakerOpen else .unhealthy := by
  obtain ⟨hkept, hsends⟩ := hrun.keptOut (hrest.keptOut index) hunhealthy hlast (fun _ hb => hb)
    hcycle
  refine ⟨hkept.record_eq, hsends, ?_⟩
  intro now endpoint
  have hstatus : (s'.world.tracker.recordAt index).status = .unhealthy := by
    rw [Tracker.recordAt, hkept.record_eq]
    exact hunhealthy
  rw [Tracker.eligibility_fst, Eligibility.judge, hstatus]
  simp

/-- Two endpoints, of which the first one is tripped by the first call. Two minutes later its
breaker is not open any more, and a second call still passes over it and has its value from the
second endpoint. -/
theorem unhealthy_endpoint_stays_out_after_its_breaker_ran_out :
    let settings :=
      { Settings.standard with
        healthChecksEnabled := false, maxRetries := 1, breakerThreshold := 1 }
    let flaky : Rpc.Transport Nat :=
      ⟨fun n _ _ => (⟨5, .result (if n = 0 then .error .emptyResult else .ok .null)⟩, n + 1)⟩
    ∃ m built before later s s' endpoint,
      Manager.build [.ofUrl "http://a", .ofUrl "http://b"] settings flaky 0 .standard
        (fun _ => 0) = .ok (m, built) ∧
      Run m.setup (idle m.world) before s ∧ s.AtRest later ∧ Run m.setup s later s' ∧
      (∀ b ∈ later, b.move.beginsCycle = false) ∧
      (s.world.tracker.recordAt 0).status = .unhealthy ∧ m.setup.registry.isLast 0 = false ∧
      m.setup.registry.get? 0 = some endpoint ∧
      (s'.world.tracker.isOpen (s'.reading m.setup).instant endpoint).1 = false ∧
      (s'.world.tracker.eligibility (s'.reading m.setup).instant 0 endpoint false).1 =
        .unhealthy ∧
      (Traffic.notes later).sendings.map Sending.url = ["http://b"] ∧ (∀ b ∈ later, ¬ b.SendsTo 0) ∧
      s'.world.tracker.record? 0 = s.world.tracker.record? 0 := by
  intro settings flaky
  have hregistry : Registry.ofConfigs [.ofUrl "http://a", .ofUrl "http://b"] = .ok _ :=
    Registry.ofConfigs_of_ordered (List.cons_ne_nil _ _) (by decide)
  let m := Manager.fresh ⟨[.ofUrl "http://a", .ofUrl "http://b"].map Endpoint.ofConfig, by simp,
    by decide⟩ settings flaky 0 .standard fun _ => 0
  have hbuild : Manager.build [.ofUrl "http://a", .ofUrl "http://b"] settings flaky 0 .standard
      (fun _ => 0) = .ok (m, _) := Manager.build_eq_ok_iff.mpr ⟨rfl, _, hregistry, rfl, rfl⟩
  let failed := play m.setup ([], idle m.world)
    [.call ⟨"ping", []⟩, .advance 0, .elapse 5, .advance 0, .advance 0, .elapse 5, .advance 0]
  let waited := play m.setup ([], failed.2)
    [.report, .elapse 120000, .call ⟨"ping", []⟩, .advance 1, .advance 1, .elapse 5, .advance 1]
  have hbefore : Run m.setup (idle m.world) failed.1 failed.2 := Run.nil.play _
  have hlater : Run m.setup failed.2 waited.1 waited.2 := Run.nil.play _
  have hrest : failed.2.AtRest waited.1 := by
    constructor
    · have hended : ∀ c ∈ failed.2.calls, c.result?.isSome := by decide
      intro id c hc
      exact Or.inl (hended c (List.mem_of_getElem? hc))
    · have hover : ∀ c ∈ failed.2.cycles, c.isOver = true := by decide
      intro id c hc
      exact Or.inl (hover c (List.mem_of_getElem? hc))
  have hcycle : ∀ b ∈ waited.1, b.move.beginsCycle = false := by decide
  have hunhealthy : (failed.2.world.tracker.recordAt 0).status = .unhealthy := by decide
  have hlast : m.setup.registry.isLast 0 = false := by decide
  obtain ⟨hrecord, hsends, hverdict⟩ :=
    unhealthy_endpoint_stays_out hunhealthy hlast hrest hlater hcycle
  have hclosed : (waited.2.world.tracker.isOpen (waited.2.reading m.setup).instant
      (.ofConfig (.ofUrl "http://a"))).1 = false := by decide
  refine ⟨m, _, _, _, _, _, _, hbuild, hbefore, hrest, hlater, hcycle, hunhealthy, hlast, rfl,
    hclosed, ?_, by decide, fun b hb => (hsends b hb).1, hrecord⟩
  rw [hverdict, hclosed]
  rfl

end Traffic

end Failover
