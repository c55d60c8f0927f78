import Failover.Proofs.Traffic.Step
import Mathlib.Algebra.Order.Ring.Nat

/-!
# Courses through a shared world

A call and a probe cycle have in common that they are done step by step and have to wait in between
(`Routine`). While one waits, others change the world: they use the tracker and the transport, take
draws, and let time pass. Nobody knows what they do, but time passes no further than to the moment
at which the routine goes on, since its owner wakes up then. A `Routine.Course` is what a routine
goes through from a moment on.
-/

namespace Failover

variable {σ α : Type}

/-- Something that is done step by step: the next step in a world, unless it has to wait or is over,
and the time at which it goes on. -/
structure Routine (σ α : Type) where
  step? : World σ → α → Option (World σ × α × Journal)
  wakesAt? : Nat → α → Option Nat

/-- A step of a routine: the world and the routine before and after it, and what it left in the
journal. -/
structure Stage (σ α : Type) where
  before : World σ
  task : α
  after : World σ
  next : α
  notes : Journal

/-- The course of a routine through a world that others change between its steps. They reach the
tracker only by what it can be asked to do, and time passes no further than to the next moment at
which the routine can go on. -/
inductive Routine.Course (r : Routine σ α) (w₀ : World σ) (a₀ : α) :
    List (Stage σ α) → World σ → α → Prop
  | begin : Course r w₀ a₀ [] w₀ a₀
  | step {stages : List (Stage σ α)} {w next : World σ} {a a' : α} {notes : Journal} :
    Course r w₀ a₀ stages w a → r.step? w a = some (next, a', notes) →
    Course r w₀ a₀ (stages ++ [⟨w, a, next, a', notes⟩]) next a'
  | meanwhile {stages : List (Stage σ α)} {w v : World σ} {a : α} (log : Tracker.Log) :
    Course r w₀ a₀ stages w a → v.tracker = w.tracker.replay log → w.now ≤ v.now →
    (∀ t, r.wakesAt? w.now a = some t → v.now ≤ max w.now t) → Course r w₀ a₀ stages v a

/-- The steps of a routine take no time and do nothing to the tracker but what it can be asked to
do. -/
structure Routine.Orderly (r : Routine σ α) : Prop where
  now : ∀ {w a out}, r.step? w a = some out → out.1.now = w.now
  tracker : ∀ {w a out}, r.step? w a = some out → ∃ log, out.1.tracker = w.tracker.replay log

/-- A call as a routine. -/
def Call.routine (setup : Setup σ) : Routine σ Call := ⟨fun w c => c.step? setup w, Call.wakesAt?⟩

/-- A probe cycle as a routine. -/
def Cycle.routine (setup : Setup σ) : Routine σ Cycle :=
  ⟨fun w c => c.step? setup w, Cycle.wakesAt?⟩

/-- The routine of a call is orderly. -/
lemma Call.orderly_routine (setup : Setup σ) : (routine setup).Orderly where
  now := fun hstep => now_of_step? hstep
  tracker := fun hstep => ⟨_, tracker_of_step? hstep⟩

/-- So is the routine of a cycle. -/
lemma Cycle.orderly_routine (setup : Setup σ) : (routine setup).Orderly where
  now := by
    intro w c out hstep
    obtain ⟨i, -, hat⟩ := Option.bind_eq_some_iff.mp hstep
    exact now_of_stepAt? hat
  tracker := by
    intro w c out hstep
    obtain ⟨i, -, hat⟩ := Option.bind_eq_some_iff.mp hstep
    exact ⟨_, tracker_of_stepAt? hat⟩

/-- A step of the prober does to the tracker what it asks of it. -/
lemma Prober.exists_log_of_step? {setup : Setup σ} {w : World σ} {p : Prober}
    {out : World σ × Prober × Journal} (h : p.step? setup w = some out) :
    ∃ log, out.1.tracker = w.tracker.replay log := by
  cases takes_of_step? h with
  | begin => exact ⟨[], rfl⟩
  | quit => exact ⟨[], rfl⟩
  | tick => exact ⟨[], rfl⟩
  | probe _ _ hprobe => exact ⟨_, Cycle.tracker_of_stepAt? hprobe⟩
  | rest => exact ⟨[], rfl⟩

namespace Routine

variable {r : Routine σ α} {w₀ w v : World σ} {a₀ a : α} {stages : List (Stage σ α)}

/-- Others do something at the same moment. -/
lemma Course.beside (h : r.Course w₀ a₀ stages w a)
    (htracker : ∃ log, v.tracker = w.tracker.replay log) (hnow : v.now = w.now) :
    r.Course w₀ a₀ stages v a := by
  obtain ⟨log, hlog⟩ := htracker
  exact h.meanwhile log hlog hnow.ge fun t _ => hnow.le.trans (Nat.le_max_left _ _)

/-- Time passes. -/
lemma Course.wait (h : r.Course w₀ a₀ stages w a) {t : Nat} (hlater : w.now ≤ t)
    (hwakes : ∀ u, r.wakesAt? w.now a = some u → t ≤ u) :
    r.Course w₀ a₀ stages { w with now := t } a :=
  h.meanwhile [] rfl hlater fun u hu => (hwakes u hu).trans (Nat.le_max_right _ _)

/-- The steps of a course are made one after the other. -/
lemma Course.chronological (h : r.Course w₀ a₀ stages w a) (horderly : r.Orderly) :
    (∀ x ∈ stages, x.before.now ≤ w.now) ∧
      stages.Pairwise fun x y => x.before.now ≤ y.before.now := by
  induction h with
  | begin => exact ⟨nofun, .nil⟩
  | step _ hstep ih =>
    obtain ⟨hpast, hordered⟩ := ih
    have hnow := horderly.now hstep
    constructor
    · intro x hx
      rcases List.mem_append.mp hx with hx | hx
      · exact (hpast x hx).trans hnow.ge
      · obtain rfl := List.mem_singleton.mp hx
        exact hnow.ge
    · refine List.pairwise_append.mpr ⟨hordered, List.pairwise_singleton _ _, ?_⟩
      intro x hx y hy
      obtain rfl := List.mem_singleton.mp hy
      exact hpast x hx
  | meanwhile _ _ _ hlater _ ih => exact ⟨fun x hx => (ih.1 x hx).trans hlater, ih.2⟩

/-- No step of a course is later than its last one. -/
lemma Course.le_last (h : r.Course w₀ a₀ stages w a) (horderly : r.Orderly) {last : Stage σ α}
    (hlast : stages.getLast? = some last) : ∀ x ∈ stages, x.before.now ≤ last.before.now := by
  obtain ⟨before, rfl⟩ := List.getLast?_eq_some_iff.mp hlast
  have hordered := (h.chronological horderly).2
  intro x hx
  rcases List.mem_append.mp hx with hx | hx
  · exact (List.pairwise_append.mp hordered).2.2 x hx _ (List.mem_singleton.mpr rfl)
  · rw [List.mem_singleton.mp hx]

/-- The worlds of a course keep the time for which breakers stay open. -/
lemma Course.timeout (h : r.Course w₀ a₀ stages w a) (horderly : r.Orderly) :
    w.tracker.breakers.timeout = w₀.tracker.breakers.timeout := by
  induction h with
  | begin => rfl
  | step _ hstep ih =>
    obtain ⟨log, htracker⟩ := horderly.tracker hstep
    dsimp only at htracker
    rw [htracker, Tracker.replay_timeout, ih]
  | meanwhile log _ htracker _ _ ih => rw [htracker, Tracker.replay_timeout, ih]

end Routine

end Failover
