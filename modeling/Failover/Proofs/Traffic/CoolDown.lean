import Failover.Proofs.Tracker.LatestFailure
import Failover.Proofs.Traffic.Log

/-!
# The cool-down of a tripped endpoint

What `Tracker.excluded_of_unhealthy` says of a log holds along every run: whatever calls, probes and
reports go on, an unhealthy endpoint is excluded for one breaker timeout after its latest failure,
even where it is the last endpoint, and each further failure begins the exclusion anew.
-/

namespace Failover

/-! ## Visits -/

/-- A call begins a visit to the endpoint with an index: it looked at it, and its first attempt is
on its way. -/
def Beat.BeginsVisit {σ : Type} (b : Beat σ) (index : Nat) : Prop :=
  ∃ id c c' settled, b.move = .advance id ∧ b.before.calls[id]? = some c ∧
    c.phase = .looking index ∧ b.after.calls[id]? = some c' ∧
    c'.phase = .waiting index 0 b.before.world.now settled

/-- A call that goes on from a look to an attempt was allowed to try the endpoint. -/
lemma Call.Takes.allows {σ : Type} {setup : Setup σ} {w : World σ} {c : Call}
    {out : World σ × Call × Journal} {index i attempt since : Nat} {settled : Rpc.Settled}
    (h : c.Takes setup w out) (hlooking : c.phase = .looking index)
    (hwaiting : out.2.1.phase = .waiting i attempt since settled) :
    ∃ endpoint, setup.registry.get? index = some endpoint ∧
      (w.eligibility setup index endpoint).1.allows = true := by
  cases h with
  | exhaust => cases hwaiting
  | skip => cases hwaiting
  | visit hphase hget hallows =>
    cases hphase.symm.trans hlooking
    exact ⟨_, hget, hallows⟩
  | crash hphase => cases hphase.symm.trans hlooking
  | succeed hphase => cases hphase.symm.trans hlooking
  | giveUp hphase => cases hphase.symm.trans hlooking
  | pause hphase => cases hphase.symm.trans hlooking
  | resume hphase => cases hphase.symm.trans hlooking

namespace Traffic

open Tracker

variable {σ : Type} {setup : Setup σ} {start s : Traffic σ} {beats : List (Beat σ)}

/-- A call visits only endpoints that may be tried at that moment. -/
lemma eligible_of_beginsVisit {b : Beat σ} {index : Nat}
    (hnext : b.before.next? setup b.move = some (b.after, b.notes)) (hvisit : b.BeginsVisit index) :
    ∃ endpoint, setup.registry.get? index = some endpoint ∧
      (b.before.world.tracker.eligibility (b.before.reading setup).instant index endpoint
        (setup.registry.isLast index)).1 = .eligible := by
  obtain ⟨id, c, c', settled, hmove, hc, hlooking, hc', hwaiting⟩ := hvisit
  rw [hmove] at hnext
  obtain ⟨d, d', hd, hstep, hcalls, -⟩ := next?_advance_eq_some hnext
  obtain rfl := Option.some.inj (hc.symm.trans hd)
  have hd' : b.after.calls[id]? = some d' := by
    rw [hcalls, List.getElem?_set_self (List.getElem?_eq_some_iff.mp hc).1]
  obtain rfl := Option.some.inj (hc'.symm.trans hd')
  obtain ⟨endpoint, hget, hallows⟩ := (Call.takes_of_step? hstep).allows hlooking hwaiting
  exact ⟨endpoint, hget, of_decide_eq_true hallows⟩

/-! ## Any interleaving -/

/-- In a run over endpoints with pairwise distinct URLs, an unhealthy endpoint is excluded by its
breaker exactly until one breaker timeout after its latest failure. -/
lemma Run.excluded_of_unhealthy {m : Manager σ} {count : Nat} {threshold : UInt32}
    {timeout : Duration} (hfresh : m.world.tracker = Tracker.new count threshold timeout)
    (hurls : (m.setup.registry.endpoints.map Endpoint.url).Nodup)
    (hrun : Run m.setup (idle m.world) beats s)
    (hfaultless : m.world.tracker.Faultless (log m.setup beats)) {index : Nat} {endpoint : Endpoint}
    (hget : m.setup.registry.get? index = some endpoint)
    (hunhealthy : (s.world.tracker.recordAt index).status = .unhealthy) :
    ∃ time, lastFailure? index (log m.setup beats) = some time ∧
      (s.world.tracker.recordAt index).lastFailure = some time.wall ∧
      ∀ now : Instant, (s.reading m.setup).instant.nanos ≤ now.nanos → ∀ isLast,
        ((s.world.tracker.eligibility now index endpoint isLast).1 = .breakerOpen ↔
          now.nanos < time.instant.nanos + timeout.nanos) := by
  have hend : s.world.tracker = m.world.tracker.replay (log m.setup beats) := hrun.tracker
  rw [hfresh] at hend hfaultless
  rw [hend] at hunhealthy ⊢
  obtain ⟨time, hlast, hwall, hexcluded⟩ := Tracker.excluded_of_unhealthy hurls hget _ _ _
    (fits_log m.setup beats) hrun.chronological hfaultless hunhealthy
  refine ⟨time, hlast, hwall, ?_⟩
  intro now hnow
  exact hexcluded now fun e he => Nat.le_trans (hrun.log_le e he) hnow

/-- A failure that a run observes at an unhealthy endpoint leaves it unhealthy, and is the latest
one after that. -/
lemma Run.unhealthy_after_failure {m : Manager σ} {count : Nat} {threshold : UInt32}
    {timeout : Duration} (hfresh : m.world.tracker = Tracker.new count threshold timeout)
    {before : List (Beat σ)} {b : Beat σ}
    (hbefore : Run m.setup (idle m.world) before b.before)
    (hafter : Run m.setup (idle m.world) (before ++ [b]) b.after) {index : Nat}
    {endpoint : Endpoint} {observer : Observer}
    (hdeeds : b.deeds m.setup = [.failure index endpoint observer])
    (hunhealthy : (b.before.world.tracker.recordAt index).status = .unhealthy) :
    m.setup.registry.get? index = some endpoint ∧
      (b.after.world.tracker.recordAt index).status = .unhealthy ∧
      lastFailure? index (log m.setup (before ++ [b])) = some (b.before.reading m.setup) := by
  have hlog : log m.setup (before ++ [b]) =
      log m.setup before ++ [⟨b.before.reading m.setup, .failure index endpoint observer⟩] := by
    rw [log_concat, Beat.log, hdeeds]
    rfl
  have hfits : (Deed.failure index endpoint observer).Fits m.setup.registry :=
    fits_log m.setup (before ++ [b]) ⟨b.before.reading m.setup, _⟩ (by simp [hlog])
  have hstart : (idle m.world).world.tracker = Tracker.new count threshold timeout := hfresh
  refine ⟨hfits, ?_, ?_⟩
  · rw [hbefore.tracker, hstart] at hunhealthy
    rw [hafter.tracker, hlog, replay_concat, hstart]
    exact Tracker.unhealthy_after_failure _ _ _ _ hunhealthy _ _ _
  · rw [hlog, lastFailure?_concat]
    simp [Entry.failsAt]

/-- **An unhealthy endpoint cools down.** Over endpoints with pairwise distinct URLs, whatever
calls, probe cycles and reports go on at any pace: an unhealthy endpoint is excluded by its breaker
exactly until one breaker timeout after its latest failure, even if it is the last one; a call that
begins a visit to it does so after that; and a failure of it, whoever observed it, begins this time
anew. -/
theorem unhealthy_endpoint_cools_down {configs : List EndpointConfig} {settings : Settings}
    {transport : Rpc.Transport σ} {wire : σ} {clock : Clock} {draw : Nat → Nat} {m : Manager σ}
    {built : Journal}
    (hbuild : Manager.build configs settings transport wire clock draw = .ok (m, built))
    (hurls : (m.setup.registry.endpoints.map Endpoint.url).Nodup)
    (hrun : Run m.setup (idle m.world) beats s)
    (hfaultless : m.world.tracker.Faultless (log m.setup beats)) :
    (∀ index endpoint, m.setup.registry.get? index = some endpoint →
      (s.world.tracker.recordAt index).status = .unhealthy →
      ∃ time, lastFailure? index (log m.setup beats) = some time ∧
        (s.world.tracker.recordAt index).lastFailure = some time.wall ∧
        ∀ now : Instant, (s.reading m.setup).instant.nanos ≤ now.nanos → ∀ isLast,
          ((s.world.tracker.eligibility now index endpoint isLast).1 = .breakerOpen ↔
            now.nanos < time.instant.nanos + settings.breakerTimeout.nanos)) ∧
    (∀ before b later index, beats = before ++ b :: later → b.BeginsVisit index →
      (b.before.world.tracker.recordAt index).status = .unhealthy →
      ∃ time, lastFailure? index (log m.setup before) = some time ∧
        time.instant.nanos + settings.breakerTimeout.nanos ≤
          (b.before.reading m.setup).instant.nanos) ∧
    (∀ before b later index endpoint observer, beats = before ++ b :: later →
      b.deeds m.setup = [.failure index endpoint observer] →
      (b.before.world.tracker.recordAt index).status = .unhealthy →
      (b.after.world.tracker.recordAt index).status = .unhealthy ∧
        lastFailure? index (log m.setup (before ++ [b])) = some (b.before.reading m.setup) ∧
        ∀ now : Instant, (b.after.reading m.setup).instant.nanos ≤ now.nanos → ∀ isLast,
          ((b.after.world.tracker.eligibility now index endpoint isLast).1 = .breakerOpen ↔
            now.nanos < (b.before.reading m.setup).instant.nanos +
              settings.breakerTimeout.nanos)) := by
  have hfresh : m.world.tracker =
      Tracker.new m.setup.registry.size settings.breakerThreshold settings.breakerTimeout := by
    obtain ⟨-, registry, -, rfl, -⟩ := Manager.build_eq_ok_iff.mp hbuild
    rfl
  refine ⟨?_, ?_, ?_⟩
  · intro index endpoint hget hunhealthy
    exact hrun.excluded_of_unhealthy hfresh hurls hfaultless hget hunhealthy
  · intro before b later index hsplit hvisit hunhealthy
    subst hsplit
    obtain ⟨hbefore, hnext, -⟩ := hrun.cut
    obtain ⟨endpoint, hget, heligible⟩ := eligible_of_beginsVisit hnext hvisit
    obtain ⟨time, hlast, -, hexcluded⟩ := hbefore.excluded_of_unhealthy hfresh hurls
      (faultless_log_of_append hfaultless) hget hunhealthy
    refine ⟨time, hlast, ?_⟩
    by_contra hearly
    have hopen := (hexcluded _ (Nat.le_refl _) (m.setup.registry.isLast index)).mpr
      (Nat.lt_of_not_le hearly)
    rw [heligible] at hopen
    cases hopen
  · intro before b later index endpoint observer hsplit hdeeds hunhealthy
    subst hsplit
    obtain ⟨hbefore, -, hafter⟩ := hrun.cut
    rw [List.append_cons] at hfaultless
    obtain ⟨hget, hstill, hlast⟩ :=
      hbefore.unhealthy_after_failure hfresh hafter hdeeds hunhealthy
    obtain ⟨time, htime, -, hexcluded⟩ := hafter.excluded_of_unhealthy hfresh hurls
      (faultless_log_of_append hfaultless) hget hstill
    obtain rfl := Option.some.inj (hlast.symm.trans htime)
    exact ⟨hstill, hlast, hexcluded⟩

/-- One endpoint, a threshold of one and a probe that fails: the endpoint is the last one, and its
breaker excludes it for the minute after that. -/
theorem unhealthy_endpoint_cools_down_after_a_probe :
    let settings := { Settings.standard with healthChecksEnabled := false, breakerThreshold := 1 }
    let refusing : Rpc.Transport Unit := ⟨fun _ _ _ => (⟨5, .result (.error .emptyResult)⟩, ())⟩
    ∃ m built beats s endpoint time,
      Manager.build [default] settings refusing () .standard (fun _ => 0) = .ok (m, built) ∧
      (m.setup.registry.endpoints.map Endpoint.url).Nodup ∧ Run m.setup (idle m.world) beats s ∧
      m.world.tracker.Faultless (log m.setup beats) ∧
      m.setup.registry.get? 0 = some endpoint ∧ m.setup.registry.isLast 0 = true ∧
      (s.world.tracker.recordAt 0).status = .unhealthy ∧
      lastFailure? 0 (log m.setup beats) = some time ∧
      ∀ now : Instant, (s.reading m.setup).instant.nanos ≤ now.nanos →
        now.nanos < time.instant.nanos + 60000000000 →
        (s.world.tracker.eligibility now 0 endpoint true).1 = .breakerOpen := by
  intro settings refusing
  have hregistry : Registry.ofConfigs [default] = .ok _ :=
    Registry.ofConfigs_of_ordered (List.cons_ne_nil _ _) (by decide)
  let m := Manager.fresh ⟨[default].map Endpoint.ofConfig, by simp, by decide⟩ settings refusing ()
    .standard fun _ => 0
  have hbuild : Manager.build [default] settings refusing () .standard (fun _ => 0) = .ok (m, _) :=
    Manager.build_eq_ok_iff.mpr ⟨rfl, _, hregistry, rfl, rfl⟩
  have hrun : Run m.setup (idle m.world) _ _ :=
    (((Run.nil.snoc (m := .cycle "ping") rfl).snoc (m := .probe 0 0) rfl).snoc (m := .elapse 5)
      rfl).snoc (m := .probe 0 0) rfl
  obtain ⟨time, hlast, -, hexcluded⟩ :=
    (unhealthy_endpoint_cools_down hbuild (by decide) hrun (by decide)).1 0 _ rfl (by decide)
  refine ⟨m, _, _, _, _, time, hbuild, by decide, hrun, by decide, rfl, by decide, by decide, hlast,
    ?_⟩
  intro now hnow hearly
  exact (hexcluded now hnow true).mpr hearly

end Traffic

end Failover
