import Failover.Proofs.Traffic.Run
import Failover.Proofs.Traffic.Step
import Mathlib.Tactic.Common

/-!
# The log of a run

Whatever goes on, the tracker of a world only sees what the moves ask of it, one after the other and
each at the time at which it is made. `Traffic.log` collects this along a run, and the tracker at
the end of a run is the one at its start after this log. Time does not go back along a run, so
neither does its log.
-/

namespace Failover

variable {σ : Type}

/-- Whether a move is a step of a call or of a probe. -/
def Move.isStep : Move σ → Bool
  | .advance _ | .probe .. => true
  | _ => false

namespace Beat

/-- What a move asks of the tracker. -/
def deeds (setup : Setup σ) (b : Beat σ) : List Tracker.Deed :=
  match b.move with
  | .advance id => ((b.before.calls[id]?).map (Call.deeds setup b.before.world)).getD []
  | .probe id index =>
    ((b.before.cycles[id]?).map fun c => c.deeds setup b.before.world index).getD []
  | .report => [.survey setup.registry]
  | _ => []

/-- Whether a move observes something, for a call or by a probe. -/
def observes (setup : Setup σ) (b : Beat σ) : Bool :=
  (b.deeds setup).any Tracker.Deed.isObservation

/-- What a move asks of the tracker, at the time of the move. -/
def log (setup : Setup σ) (b : Beat σ) : Tracker.Log :=
  (b.deeds setup).map (⟨b.before.reading setup, ·⟩)

/-- A move that is nobody's step asks for a report, or for nothing. -/
lemma deeds_of_not_isStep {setup : Setup σ} {b : Beat σ} (h : b.move.isStep = false)
    {deed : Tracker.Deed} (hdeed : deed ∈ b.deeds setup) : deed = .survey setup.registry := by
  obtain ⟨before, move, after, notes⟩ := b
  cases move with
  | advance id => cases h
  | probe id index => cases h
  | report => exact List.mem_singleton.mp hdeed
  | _ => cases hdeed

end Beat

namespace Traffic

/-- What the moves of a run ask of the tracker, in order. -/
def log (setup : Setup σ) (beats : List (Beat σ)) : Tracker.Log := beats.flatMap (Beat.log setup)

variable {setup : Setup σ} {start s s' : Traffic σ} {m : Move σ} {beats : List (Beat σ)}
  {notes : Journal}

/-- The log of more beats comes after that of the beats before them. -/
lemma log_append (setup : Setup σ) (beats more : List (Beat σ)) :
    log setup (beats ++ more) = log setup beats ++ log setup more := List.flatMap_append

/-- So does that of one more beat. -/
lemma log_concat (setup : Setup σ) (beats : List (Beat σ)) (b : Beat σ) :
    log setup (beats ++ [b]) = log setup beats ++ b.log setup := by
  simp [log]

/-- No entry of the log of a prefix ends in a fault if none of the whole log does. -/
lemma faultless_log_of_append {t : Tracker} {beats more : List (Beat σ)}
    (h : t.Faultless (log setup (beats ++ more))) : t.Faultless (log setup beats) := by
  rw [log_append] at h
  exact (Tracker.faultless_append.mp h).1

/-- A move that is nobody's step leaves nothing but log events. -/
lemma onlyEvents_of_next? (h : s.next? setup m = some (s', notes)) (hm : m.isStep = false) :
    notes.OnlyEvents := by
  cases m with
  | advance id => cases hm
  | probe id index => cases hm
  | report =>
    cases h
    exact s.world.onlyEvents_snapshot setup
  | _ =>
    cases h
    exact nofun

/-! ## The tracker of a run -/

/-- A move does to the tracker what it asks of it. -/
lemma tracker_of_next? (h : s.next? setup m = some (s', notes)) :
    s'.world.tracker = s.world.tracker.replay (Beat.log setup ⟨s, m, s', notes⟩) := by
  cases m with
  | call request =>
    cases h
    rfl
  | cycle method =>
    cases h
    rfl
  | advance id =>
    obtain ⟨c, c', hc, hstep, -, -⟩ := next?_advance_eq_some h
    have htracker := Call.tracker_of_step? hstep
    simpa [Beat.log, Beat.deeds, reading, hc] using htracker
  | probe id index =>
    obtain ⟨c, c', hc, hstep, -, -⟩ := next?_probe_eq_some h
    have htracker := Cycle.tracker_of_stepAt? hstep
    simpa [Beat.log, Beat.deeds, reading, hc] using htracker
  | report =>
    cases h
    rfl
  | elapse millis =>
    cases h
    rfl
  | rewire change =>
    cases h
    rfl

/-- The tracker at the end of a run is the one at its start after the log of the run. -/
theorem Run.tracker (h : Run setup start beats s) :
    s.world.tracker = start.world.tracker.replay (log setup beats) := by
  induction h with
  | nil => rfl
  | snoc _ hnext ih => rw [tracker_of_next? hnext, ih, log_concat, Tracker.replay_append]

/-! ## Time in a run -/

/-- A move other than the passing of time takes no time. -/
lemma now_eq_of_next? (h : s.next? setup m = some (s', notes))
    (hm : ∀ millis, m ≠ .elapse millis) : s'.world.now = s.world.now := by
  cases m with
  | call request =>
    cases h
    rfl
  | cycle method =>
    cases h
    rfl
  | advance id =>
    obtain ⟨c, c', -, hstep, -, -⟩ := next?_advance_eq_some h
    exact Call.now_of_step? hstep
  | probe id index =>
    obtain ⟨c, c', -, hstep, -, -⟩ := next?_probe_eq_some h
    exact Cycle.now_of_stepAt? hstep
  | report =>
    cases h
    rfl
  | elapse millis => exact absurd rfl (hm millis)
  | rewire change =>
    cases h
    rfl

/-- A move does not take time back. -/
lemma now_of_next? (h : s.next? setup m = some (s', notes)) : s.world.now ≤ s'.world.now := by
  by_cases hm : ∃ millis, m = .elapse millis
  · obtain ⟨millis, rfl⟩ := hm
    cases h
    exact Nat.le_add_right _ _
  · exact Nat.le_of_eq (now_eq_of_next? h (not_exists.mp hm)).symm

/-- The clock does not run backwards. -/
lemma reading_mono (setup : Setup σ) (h : s.world.now ≤ s'.world.now) :
    (s.reading setup).instant.nanos ≤ (s'.reading setup).instant.nanos :=
  setup.clock.instant_after_mono (Nat.mul_le_mul_right _ h)

/-- Nothing in the log of a run is later than its end. -/
lemma Run.log_le (h : Run setup start beats s) :
    ∀ e ∈ log setup beats, e.time.instant.nanos ≤ (s.reading setup).instant.nanos := by
  induction h with
  | nil => simp [log]
  | @snoc beats s m s' notes _ hnext ih =>
    have hmono := reading_mono setup (now_of_next? hnext)
    intro e he
    rw [log_concat] at he
    rcases List.mem_append.mp he with hpast | hlast
    · exact Nat.le_trans (ih e hpast) hmono
    · obtain ⟨deed, -, rfl⟩ := List.mem_map.mp hlast
      exact hmono

/-- The log of a run does not go back in time. -/
lemma Run.chronological (h : Run setup start beats s) :
    Tracker.Chronological (log setup beats) := by
  induction h with
  | nil => exact List.Pairwise.nil
  | @snoc beats s m s' notes hrun _ ih =>
    rw [log_concat]
    refine List.pairwise_append.mpr ⟨ih, ?_, ?_⟩
    · exact List.pairwise_map.mpr (List.pairwise_of_forall fun _ _ => Nat.le_refl _)
    · intro e he f hf
      obtain ⟨deed, -, rfl⟩ := List.mem_map.mp hf
      exact hrun.log_le e he

/-! ## Indices and endpoints -/

/-- Every observation in the log of a run is made at the endpoint that its index stands for. -/
lemma fits_log (setup : Setup σ) (beats : List (Beat σ)) :
    ∀ e ∈ log setup beats, e.deed.Fits setup.registry := by
  intro e he
  obtain ⟨⟨before, move, after, notes⟩, -, hmem⟩ := List.mem_flatMap.mp he
  obtain ⟨deed, hdeed, rfl⟩ := List.mem_map.mp hmem
  cases move with
  | advance id =>
    cases hc : before.calls[id]? with
    | none => simp [Beat.deeds, hc] at hdeed
    | some c =>
      simp only [Beat.deeds, hc, Option.map_some, Option.getD_some] at hdeed
      exact c.deeds_fit setup before.world deed hdeed
  | probe id index =>
    cases hc : before.cycles[id]? with
    | none => simp [Beat.deeds, hc] at hdeed
    | some c =>
      simp only [Beat.deeds, hc, Option.map_some, Option.getD_some] at hdeed
      exact c.deeds_fit setup before.world index deed hdeed
  | _ =>
    obtain rfl := Beat.deeds_of_not_isStep rfl hdeed
    trivial

end Traffic

end Failover
