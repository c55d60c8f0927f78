import Failover.Proofs.Manager.ProbeCycles
import Failover.Proofs.Traffic.Course

/-!
# Activities that come to their end

A background prober never runs out of steps, so an activity does not come to its end just because
each of its own steps brings it nearer to it. What helps is a time at which it will be over. Until
then the clock moves no more often than there are milliseconds left, and the prober makes no more
steps than its ticks up to then allow, since each tick is due later than the one before it
(`Prober.Ticks.stepsUntil_lt`). The owner makes no more steps than the activity has before it, and
there is always one of the three who can move (`Manager.Bounded.isOver_drive`).
-/

namespace Failover

open Time

variable {σ : Type} {setup : Setup σ} {w : World σ}

/-! ## The steps of the prober up to a time -/

namespace Prober

variable {p : Prober} {out : World σ × Prober × Journal} {count horizon : Nat}

/-- A prober of so many endpoints whose ticks do not come at once. -/
structure Ticks (p : Prober) (count : Nat) : Prop where
  covers : p.Covers count
  interval_pos : 0 < p.interval.nanos

/-- A bound on the ticks from one tick on that are due by a time. -/
def ticksUntil (horizon tick : Nat) : Nat := horizon * nanosPerMilli + 1 - tick

/-- A bound on the steps that a prober makes up to a time. -/
def stepsUntil (count horizon : Nat) (p : Prober) : Nat :=
  match p.phase with
  | .spawned => ticksUntil horizon 0 * (2 * count + 3) + 2
  | .idle tick => ticksUntil horizon tick * (2 * count + 3) + 1
  | .cycling tick c => ticksUntil horizon tick * (2 * count + 3) + c.stepsLeft + 2
  | .ended => 0

/-- A new prober ticks. -/
lemma ticks_new (interval : Duration) (method : String) (count : Nat) :
    (new interval method).Ticks count where
  covers := covers_new interval method count
  interval_pos := by
    have hleast : minInterval.nanos = 1000000 := by decide
    unfold new
    dsimp only
    split <;> omega

/-- No step of the prober changes its interval. -/
lemma interval_of_step? (hstep : p.step? setup w = some out) : out.2.1.interval = p.interval := by
  cases takes_of_step? hstep <;> rfl

/-- A step of a prober that ticks leaves it ticking. -/
lemma Ticks.step (h : p.Ticks setup.registry.size) (hstep : p.step? setup w = some out) :
    out.2.1.Ticks setup.registry.size where
  covers := h.covers.step hstep
  interval_pos := (interval_of_step? hstep).symm ▸ h.interval_pos

/-- The tick after a cycle comes later than the one before it. -/
lemma lt_nextTick {interval : Duration} (hpos : 0 < interval.nanos) (tick now : Nat) :
    tick < nextTick interval tick now := by
  unfold nextTick
  split <;> omega

/-- A tick that is taken by a time leaves one fewer. -/
lemma ticksUntil_nextTick {interval : Duration} {tick : Nat} (hpos : 0 < interval.nanos)
    (hdue : tickMillis tick ≤ horizon) (now : Nat) :
    ticksUntil horizon (nextTick interval tick now) + 1 ≤ ticksUntil horizon tick := by
  have hlt := lt_nextTick hpos tick now
  unfold tickMillis nanosPerMilli at hdue
  unfold ticksUntil nanosPerMilli
  omega

/-- What a prober does that waits for a tick. -/
lemma step?_idle {tick : Nat} (hphase : p.phase = .idle tick) (hstep : p.step? setup w = some out) :
    out.2.1.phase = .ended ∨ tickMillis tick ≤ w.now ∧
      out.2.1.phase = .cycling (nextTick p.interval tick (w.now * nanosPerMilli))
        (.start p.method setup.registry.size) := by
  rw [step?, hphase] at hstep
  dsimp only at hstep
  split at hstep
  case isTrue =>
    cases hstep
    exact Or.inl rfl
  case isFalse =>
    split at hstep
    case isTrue hdue =>
      cases hstep
      exact Or.inr ⟨hdue, rfl⟩
    case isFalse => cases hstep

/-- Every step of a prober up to a time is one of those that it makes up to then. -/
lemma Ticks.stepsUntil_lt (h : p.Ticks setup.registry.size) (hnow : w.now ≤ horizon)
    (hstep : p.step? setup w = some out) :
    out.2.1.stepsUntil setup.registry.size horizon < p.stepsUntil setup.registry.size horizon := by
  cases hphase : p.phase with
  | spawned =>
    cases takes_of_step? hstep with
    | begin =>
      have hfewer : ticksUntil horizon (w.now * nanosPerMilli) ≤ ticksUntil horizon 0 :=
        Nat.sub_le_sub_left (Nat.zero_le _) _
      have hmul := Nat.mul_le_mul_right (2 * setup.registry.size + 3) hfewer
      simp only [stepsUntil, hphase]
      omega
    | quit hidle => cases hphase.symm.trans hidle
    | tick hidle => cases hphase.symm.trans hidle
    | probe hcycling => cases hphase.symm.trans hcycling
    | rest hcycling => cases hphase.symm.trans hcycling
  | idle tick =>
    rcases step?_idle hphase hstep with hended | ⟨hdue, hcycling⟩
    · simp [stepsUntil, hphase, hended]
    · have hfewer := ticksUntil_nextTick h.interval_pos (hdue.trans hnow) (w.now * nanosPerMilli)
      have hmul := Nat.mul_le_mul_right (2 * setup.registry.size + 3) hfewer
      have hsteps := Cycle.stepsLeft_le (Cycle.covers_start p.method setup.registry.size)
      simp only [stepsUntil, hphase, hcycling]
      rw [Nat.succ_mul] at hmul
      omega
  | cycling tick c =>
    cases takes_of_step? hstep with
    | begin hspawned => cases hphase.symm.trans hspawned
    | quit hidle => cases hphase.symm.trans hidle
    | tick hidle => cases hphase.symm.trans hidle
    | probe hcycling _ hprobe =>
      cases hphase.symm.trans hcycling
      have hlt := Cycle.stepsLeft_of_stepAt? hprobe
      simp only [stepsUntil, hphase] at hlt ⊢
      omega
    | rest hcycling =>
      cases hphase.symm.trans hcycling
      simp only [stepsUntil, hphase]
      omega
  | ended =>
    rw [step?, hphase] at hstep
    cases hstep

end Prober

/-! ## Activities -/

/-- A stage of a routine is a stride that the owner of a manager makes. -/
def Stage.MadeBy {α : Type} (x : Stage σ α) (y : Stride σ) : Prop :=
  y.actor = .owner ∧ y.before.world = x.before ∧ y.after.world = x.after ∧ y.notes = x.notes

/-- The earlier of two times is no later than the first. -/
lemma le_left_of_earliest? {s? : Option Nat} {t u : Nat} (h : earliest? (some u) s? = some t) :
    t ≤ u := by
  cases s? with
  | none => exact (Option.some.inj h).ge
  | some s =>
    cases h
    exact Nat.min_le_left u s

namespace Manager

variable {m : Manager σ} {f f' : Foreground} {x : Stride σ} {made : List (Stride σ)} {horizon : Nat}
  {P : List (Stride σ) → Manager σ → Foreground → Prop} {rank : Foreground → Nat}

/-- The background prober, if there is one, takes its ticks one after the other. -/
def Ticks (m : Manager σ) : Prop := ∀ p, m.prober = some p → p.Ticks m.setup.registry.size

/-- A bound on the steps that the background prober makes up to a time. -/
def stepsUntil (horizon : Nat) (m : Manager σ) : Nat :=
  (m.prober.map (Prober.stepsUntil m.setup.registry.size horizon)).getD 0

/-- An activity that will be over by a time: what every stride keeps as long as it is not, how many
steps are before it, and that it has a time up to then at which it goes on. What is kept may speak
of the strides made so far. -/
structure Bounded (P : List (Stride σ) → Manager σ → Foreground → Prop) (rank : Foreground → Nat)
    (horizon : Nat) : Prop where
  makes : ∀ {made m f x f'}, P made m f → f.isOver m.world.now m.prober = false → m.Makes f x f' →
    P (made ++ [x]) x.after f'
  rank_lt : ∀ {made} {m : Manager σ} {f world f' notes}, P made m f →
    f.step? m.setup m.world = some (world, f', notes) → rank f' < rank f
  wakes : ∀ {made m f}, P made m f → f.isOver m.world.now m.prober = false →
    ∃ t, f.wakesAt? m.world.now = some t ∧ t ≤ horizon ∧
      (t ≤ m.world.now → (f.step? m.setup m.world).isSome)

/-- So it is with every prober that was started. -/
lemma ticks_start (h : m.Ticks) : m.start.1.Ticks := by
  unfold start
  split
  case isTrue =>
    split
    case h_1 => exact h
    case h_2 =>
      intro p hp
      cases hp
      exact Prober.ticks_new _ _ _
  case isFalse => exact h

/-- A stride leaves the prober of a manager ticking. -/
lemma Ticks.makes (h : m.Ticks) (hmakes : m.Makes f x f') : x.after.Ticks := by
  cases hmakes with
  | owner => exact h
  | prober hp hstep =>
    intro q hq
    cases hq
    exact (h _ hp).step hstep
  | clock => exact h

/-- A prober that cannot make a step has ended or waits for a later time. -/
lemma Ticks.lt_of_proberWakesAt? (h : m.Ticks) (hwaits : m.stepProber? = none) {t : Nat}
    (ht : m.proberWakesAt? = some t) : m.world.now < t := by
  obtain ⟨p, hp, hwakes⟩ := Option.bind_eq_some_iff.mp ht
  have hended : p.isEnded = false := by
    cases hphase : p.phase <;> simp_all [Prober.isEnded, Prober.wakesAt?]
  obtain ⟨u, hu, hstep⟩ := (h p hp).covers.exists_due hended m.world.now
  cases hwakes.symm.trans hu
  by_contra hdue
  have hsome := hstep m.world (Nat.le_of_not_lt hdue)
  simp [stepProber?, hp] at hwaits
  rw [hwaits] at hsome
  cases hsome

/-- As long as an activity is not over somebody can move, and every stride takes one of those that
are left. -/
lemma Bounded.exists_stride (h : Bounded P rank horizon) (hm : P made m f) (hticks : m.Ticks)
    (hnow : m.world.now ≤ horizon) (hover : f.isOver m.world.now m.prober = false) :
    ∃ x f', m.stride? f = some (x, f') ∧ P (made ++ [x]) x.after f' ∧ x.after.Ticks ∧
      x.after.world.now ≤ horizon ∧
      rank f' + (horizon - x.after.world.now) + x.after.stepsUntil horizon <
        rank f + (horizon - m.world.now) + m.stepsUntil horizon := by
  obtain ⟨t, ht, hle, hdue⟩ := h.wakes hm hover
  have hsome : (m.stride? f).isSome := by
    unfold stride?
    rw [hover, if_neg Bool.false_ne_true]
    cases hown : f.step? m.setup m.world with
    | some out => rfl
    | none =>
      cases hprober : m.stepProber? with
      | some out => rfl
      | none =>
        have hlater : m.world.now < t := by
          by_contra hnot
          have hstep := hdue (Nat.le_of_not_lt hnot)
          rw [hown] at hstep
          cases hstep
        have hmoment : ∃ u, m.nextMoment? f = some u ∧ m.world.now < u := by
          unfold nextMoment?
          rw [ht]
          cases hwakes : m.proberWakesAt? with
          | none => exact ⟨t, rfl, hlater⟩
          | some u => exact ⟨_, rfl, lt_min hlater (hticks.lt_of_proberWakesAt? hprober hwakes)⟩
        obtain ⟨u, hu, hlt⟩ := hmoment
        simp [moveOn?, hu, hlt]
  obtain ⟨⟨x, f'⟩, hstride⟩ := Option.isSome_iff_exists.mp hsome
  have hmakes := makes_of_stride? hstride
  refine ⟨x, f', hstride, h.makes hm hover hmakes, hticks.makes hmakes, ?_⟩
  cases hmakes with
  | owner hstep =>
    have hfewer := h.rank_lt hm hstep
    have hsame := Foreground.now_of_step? hstep
    dsimp only at hsame ⊢
    rw [hsame]
    refine ⟨hnow, ?_⟩
    exact Nat.add_lt_add_right (Nat.add_lt_add_right hfewer _) _
  | prober hp hstep =>
    have hfewer := (hticks _ hp).stepsUntil_lt hnow hstep
    have hsame := Prober.now_of_step? hstep
    dsimp only at hfewer hsame ⊢
    rw [hsame]
    refine ⟨hnow, ?_⟩
    simp only [stepsUntil, hp, Option.map_some, Option.getD_some]
    exact Nat.add_lt_add_left hfewer _
  | @clock u _ hmoment hlater =>
    rw [nextMoment?, ht] at hmoment
    have hhorizon : u ≤ horizon := (le_left_of_earliest? hmoment).trans hle
    refine ⟨hhorizon, ?_⟩
    refine Nat.add_lt_add_right (Nat.add_lt_add_left ?_ _) _
    show horizon - u < horizon - m.world.now
    omega

/-- An activity that will be over by a time comes to its end, if it is given as many strides as it,
the clock and the prober can make until then. -/
theorem Bounded.isOver_drive (h : Bounded P rank horizon) (hm : P made m f) (hticks : m.Ticks)
    (hnow : m.world.now ≤ horizon) {fuel : Nat}
    (hfuel : rank f + (horizon - m.world.now) + m.stepsUntil horizon < fuel) (past : List Note) :
    let out := m.drive fuel f past
    out.2.1.isOver out.1.world.now out.1.prober = true ∧
      P (made ++ m.strides fuel f) out.1 out.2.1 := by
  induction fuel generalizing m f made past with
  | zero => omega
  | succ fuel ih =>
    cases hover : f.isOver m.world.now m.prober with
    | true =>
      have hnone : m.strides (fuel + 1) f = [] := by
        unfold strides stride?
        rw [hover, if_pos rfl]
      rw [drive_of_isOver hover, hnone, List.append_nil]
      exact ⟨hover, hm⟩
    | false =>
      obtain ⟨x, f', hstride, hx, hticks', hnow', hfewer⟩ := h.exists_stride hm hticks hnow hover
      have hstep : m.step? f = some (x.after, f', x.notes) := by
        rw [step?_eq_stride?, hstride]
        rfl
      have hstrides : made ++ m.strides (fuel + 1) f = made ++ [x] ++ x.after.strides fuel f' := by
        rw [strides, hstride, List.append_assoc]
        rfl
      rw [drive_of_step hstep, hstrides]
      exact ih hx hticks' hnow' (by omega) _

/-- An activity that will be over by a time comes to its end after so many strides. -/
lemma Bounded.exists_isOver_drive (h : Bounded P rank horizon) (hm : P [] m f) (hticks : m.Ticks)
    (hnow : m.world.now ≤ horizon) :
    ∃ enough, ∀ fuel ≥ enough,
      let out := m.drive fuel f []
      out.2.1.isOver out.1.world.now out.1.prober = true ∧ P (m.strides fuel f) out.1 out.2.1 :=
  ⟨_, fun _ hfuel => h.isOver_drive hm hticks hnow (Nat.lt_of_succ_le hfuel) []⟩

end Manager

end Failover
