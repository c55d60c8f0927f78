import Failover.Proofs.Traffic.Step
import Mathlib.Algebra.Order.BigOperators.Group.List
import Mathlib.Algebra.Order.Ring.Nat

/-!
# Progress of the background prober

A prober that has not ended always has a time from which on it makes its next step, whatever the
world is like by then: its cycle has a probe for every endpoint (`Cycle.Covers`), so one of them is
due when the cycle wakes up, and a cycle that is over, faulted or not, hands back to the prober. A
cycle takes at most two steps for each endpoint, so a prober that is told to end does so after a
number of steps that is known beforehand (`Prober.stepsLeft`).
-/

namespace Failover

variable {σ : Type} {setup : Setup σ} {w : World σ}

/-! ## Cycles -/

namespace Cycle

variable {c : Cycle} {index : Nat} {out : World σ × Cycle × Journal}

/-- A cycle has a probe for each of so many endpoints, unless a fault has ended it. -/
def Covers (c : Cycle) (count : Nat) : Prop :=
  ∀ probes, c.phase = .running probes → probes.length = count

/-- A new cycle covers the endpoints it was started with. -/
lemma covers_start (method : String) (count : Nat) : (start method count).Covers count := by
  intro probes hphase
  cases hphase
  exact List.length_replicate

/-- Changing the phase of one probe keeps the number of probes. -/
lemma Covers.setProbe {count : Nat} {probes : List ProbePhase} (h : c.Covers count)
    (hphase : c.phase = .running probes) (probe : ProbePhase) :
    (c.setProbe probes index probe).Covers count := by
  intro probes' hphase'
  cases hphase'
  rw [List.length_set, h probes hphase]

/-- A step of a cycle keeps the endpoints it covers. -/
lemma Covers.step {count : Nat} (h : c.Covers count) (hstep : c.stepAt? setup w index = some out) :
    out.2.1.Covers count := by
  cases takes_of_stepAt? hstep with
  | send hphase => exact h.setProbe hphase _
  | crash => exact nofun
  | succeed hphase => exact h.setProbe hphase _
  | fail hphase => exact h.setProbe hphase _
  | overflow => exact nofun

/-- A cycle that is not over has a time from which on one of its probes goes on. -/
lemma Covers.exists_due (h : c.Covers setup.registry.size) (hover : c.isOver = false) (now : Nat) :
    ∃ t, c.wakesAt? now = some t ∧ ∀ w : World σ, t ≤ w.now → (c.step? setup w).isSome := by
  cases hphase : c.phase with
  | faulted f => simp [isOver, hphase] at hover
  | running probes =>
    have hlength := h probes hphase
    have hsome : ∃ probe ∈ probes, (probeWakesAt? now probe).isSome := by
      by_contra hnone
      have hall : c.isOver = true := by
        rw [isOver, hphase]
        refine List.all_eq_true.mpr ?_
        intro probe hprobe
        cases probe with
        | unsent => exact absurd ⟨_, hprobe, rfl⟩ hnone
        | waiting since settled => exact absurd ⟨_, hprobe, rfl⟩ hnone
        | done => rfl
      rw [hover] at hall
      cases hall
    obtain ⟨probe, hprobe, hwakes⟩ := hsome
    obtain ⟨t, ht⟩ : ∃ t, (probes.filterMap (probeWakesAt? now)).min? = some t := by
      obtain ⟨s, hs⟩ := Option.isSome_iff_exists.mp hwakes
      have hmem : s ∈ probes.filterMap (probeWakesAt? now) :=
        List.mem_filterMap.mpr ⟨probe, hprobe, hs⟩
      exact Option.isSome_iff_exists.mp (List.isSome_min?_of_mem hmem)
    refine ⟨t, by rw [wakesAt?, hphase]; exact ht, ?_⟩
    intro w hdue
    -- the probe that wakes first is due, so there is a first one that is due
    obtain ⟨first, hfirst, hwakes⟩ := List.mem_filterMap.mp (List.min?_mem ht)
    have hisDue : isDue w.now first = true := by
      cases first with
      | unsent => rfl
      | waiting since settled =>
        cases hwakes
        exact decide_eq_true hdue
      | done => cases hwakes
    obtain ⟨i, hi⟩ : ∃ i, probes.findIdx? (isDue w.now) = some i := by
      refine Option.isSome_iff_exists.mp ?_
      rw [List.findIdx?_isSome]
      exact List.any_eq_true.mpr ⟨first, hfirst, hisDue⟩
    obtain ⟨hlt, hidue, -⟩ := List.findIdx?_eq_some_iff_getElem.mp hi
    obtain ⟨endpoint, hget⟩ : ∃ endpoint, setup.registry.get? i = some endpoint :=
      ⟨_, List.getElem?_eq_getElem (Nat.lt_of_lt_of_eq hlt hlength)⟩
    have hat : probes[i]? = some probes[i] := List.getElem?_eq_getElem hlt
    have hindex : c.dueIndex? w.now = some i := by rw [dueIndex?, hphase]; exact hi
    rw [step?, hindex, Option.bind_some, stepAt?, hphase]
    dsimp only
    rw [hat, hget]
    cases hprobe : probes[i] with
    | unsent => rfl
    | waiting since settled =>
      rw [hprobe] at hidue
      dsimp only
      rw [if_pos (of_decide_eq_true hidue)]
      rfl
    | done =>
      rw [hprobe] at hidue
      cases hidue

end Cycle

/-- The number of steps that a probe has before it. -/
def ProbePhase.stepsLeft : ProbePhase → Nat
  | .unsent => 2
  | .waiting .. => 1
  | .done => 0

/-- The number of steps that a cycle has before it at most. -/
def Cycle.stepsLeft (c : Cycle) : Nat :=
  match c.phase with
  | .running probes => (probes.map ProbePhase.stepsLeft).sum
  | .faulted _ => 0

/-- What a list adds up to when one of its members is replaced. -/
lemma sum_map_set {α : Type} (f : α → Nat) {as : List α} {i : Nat} {old : α}
    (h : as[i]? = some old) (new : α) :
    ((as.set i new).map f).sum + f old = (as.map f).sum + f new := by
  induction as generalizing i with
  | nil => cases h
  | cons a as ih =>
    cases i with
    | zero =>
      cases h
      simp only [List.set_cons_zero, List.map_cons, List.sum_cons]
      omega
    | succ i =>
      have hrest := ih (i := i) h
      simp only [List.set_cons_succ, List.map_cons, List.sum_cons]
      omega

namespace Cycle

variable {c : Cycle} {index : Nat} {out : World σ × Cycle × Journal}

/-- Bringing one probe forward lowers the steps left of its cycle. -/
lemma stepsLeft_setProbe {probes : List ProbePhase} {old new : ProbePhase}
    (hphase : c.phase = .running probes) (hprobe : probes[index]? = some old)
    (hlt : new.stepsLeft < old.stepsLeft) :
    (c.setProbe probes index new).stepsLeft < c.stepsLeft := by
  have hsum := sum_map_set ProbePhase.stepsLeft hprobe new
  show ((probes.set index new).map ProbePhase.stepsLeft).sum < c.stepsLeft
  rw [stepsLeft, hphase]
  dsimp only
  omega

/-- Every step of a cycle is one of those that it had before it. -/
lemma stepsLeft_of_stepAt? (hstep : c.stepAt? setup w index = some out) :
    out.2.1.stepsLeft < c.stepsLeft := by
  have hfault : ∀ {probes : List ProbePhase} {since : Nat} {settled : Rpc.Settled} (f : Fault),
      c.phase = .running probes → probes[index]? = some (.waiting since settled) →
      ({ c with phase := .faulted f } : Cycle).stepsLeft < c.stepsLeft := by
    intro probes since settled f hphase hprobe
    have hsum := sum_map_set ProbePhase.stepsLeft hprobe .done
    show 0 < c.stepsLeft
    rw [stepsLeft, hphase]
    simp only [ProbePhase.stepsLeft] at hsum ⊢
    omega
  cases takes_of_stepAt? hstep with
  | send hphase hprobe => exact stepsLeft_setProbe hphase hprobe Nat.one_lt_two
  | crash hphase hprobe => exact hfault _ hphase hprobe
  | succeed hphase hprobe => exact stepsLeft_setProbe hphase hprobe Nat.zero_lt_one
  | fail hphase hprobe => exact stepsLeft_setProbe hphase hprobe Nat.zero_lt_one
  | overflow hphase hprobe => exact hfault _ hphase hprobe

/-- A cycle over `count` endpoints takes at most a sending and an arrival for each. -/
lemma stepsLeft_le {count : Nat} (h : c.Covers count) : c.stepsLeft ≤ 2 * count := by
  cases hphase : c.phase with
  | faulted f => simp [stepsLeft, hphase]
  | running probes =>
    have hbound : (probes.map ProbePhase.stepsLeft).sum ≤ probes.length * 2 := by
      have hall := List.sum_le_card_nsmul (probes.map ProbePhase.stepsLeft) 2 ?_
      · simpa using hall
      · intro n hn
        obtain ⟨probe, -, rfl⟩ := List.mem_map.mp hn
        cases probe <;> simp [ProbePhase.stepsLeft]
    rw [h probes hphase] at hbound
    rw [stepsLeft, hphase]
    dsimp only
    omega

end Cycle

/-! ## The prober -/

namespace Prober

variable {p : Prober} {out : World σ × Prober × Journal}

/-- The cycle of a prober has a probe for each of so many endpoints. -/
def Covers (p : Prober) (count : Nat) : Prop :=
  ∀ tick c, p.phase = .cycling tick c → c.Covers count

/-- A prober that runs no cycle yet covers any number of endpoints. -/
lemma covers_new (interval : Duration) (method : String) (count : Nat) :
    (new interval method).Covers count := nofun

/-- A step of the prober keeps the endpoints its cycle covers. -/
lemma Covers.step (h : p.Covers setup.registry.size) (hstep : p.step? setup w = some out) :
    out.2.1.Covers setup.registry.size := by
  intro tick c hphase
  cases takes_of_step? hstep with
  | begin => cases hphase
  | quit => cases hphase
  | tick =>
    cases hphase
    exact Cycle.covers_start _ _
  | probe hcycling _ hprobe =>
    cases hphase
    exact (h _ _ hcycling).step hprobe
  | rest => cases hphase

/-- A step leaves the order to end as it is. -/
lemma stopping_of_step? (hstep : p.step? setup w = some out) :
    out.2.1.stopping = p.stopping := by
  cases takes_of_step? hstep <;> rfl

/-- A prober ends only if it was told to. -/
lemma isEnded_of_step? (hstep : p.step? setup w = some out) (hrunning : p.stopping = false) :
    out.2.1.isEnded = false := by
  cases takes_of_step? hstep with
  | begin => rfl
  | quit _ hstopping =>
    rw [hrunning] at hstopping
    cases hstopping
  | tick => rfl
  | probe => rfl
  | rest => rfl

/-- No step of the prober takes time. -/
lemma now_of_step? (hstep : p.step? setup w = some out) : out.1.now = w.now := by
  cases takes_of_step? hstep with
  | begin => rfl
  | quit => rfl
  | tick => rfl
  | probe _ _ hprobe => exact Cycle.now_of_stepAt? hprobe
  | rest => rfl

/-- A prober that has not ended has a time from which on it makes its next step. -/
lemma Covers.exists_due (h : p.Covers setup.registry.size) (hended : p.isEnded = false)
    (now : Nat) :
    ∃ t, p.wakesAt? now = some t ∧ ∀ w : World σ, t ≤ w.now → (p.step? setup w).isSome := by
  cases hphase : p.phase with
  | spawned => exact ⟨now, by simp [wakesAt?, hphase], by simp [step?, hphase]⟩
  | idle tick =>
    refine ⟨_, by rw [wakesAt?, hphase], ?_⟩
    intro w hdue
    rw [step?, hphase]
    dsimp only
    cases hstopping : p.stopping with
    | true => rfl
    | false =>
      rw [hstopping] at hdue
      simp only [Bool.false_eq_true, if_false] at hdue ⊢
      rw [if_pos hdue]
      rfl
  | cycling tick c =>
    cases hover : c.isOver with
    | true =>
      refine ⟨now, by simp [wakesAt?, hphase, hover], ?_⟩
      intro w _
      simp [step?, hphase, hover]
    | false =>
      obtain ⟨t, ht, hstep⟩ := (h tick c hphase).exists_due hover now
      refine ⟨t, by simp [wakesAt?, hphase, hover, ht], ?_⟩
      intro w hdue
      obtain ⟨out, hout⟩ := Option.isSome_iff_exists.mp (hstep w hdue)
      simp [step?, hphase, hover, hout]
  | ended => simp [isEnded, hphase] at hended

/-- The number of steps that a prober has before it which is told to end. -/
def stepsLeft (p : Prober) : Nat :=
  match p.phase with
  | .spawned => 2
  | .idle _ => 1
  | .cycling _ c => c.stepsLeft + 2
  | .ended => 0

/-- Once asked to stop, the prober has fewer steps left after each of its steps. -/
lemma stepsLeft_of_step? (hstep : p.step? setup w = some out) (hstopping : p.stopping = true) :
    out.2.1.stepsLeft < p.stepsLeft := by
  cases takes_of_step? hstep with
  | begin hphase => simp [stepsLeft, hphase]
  | quit hphase => simp [stepsLeft, hphase]
  | tick _ hrunning =>
    rw [hstopping] at hrunning
    cases hrunning
  | probe hphase _ hprobe =>
    have hlt := Cycle.stepsLeft_of_stepAt? hprobe
    simp only [stepsLeft, hphase] at hlt ⊢
    omega
  | rest hphase => simp [stepsLeft, hphase]

/-- The steps left of a prober are those of its cycle and two of its own. -/
lemma Covers.stepsLeft_le {count : Nat} (h : p.Covers count) : p.stepsLeft ≤ 2 * count + 2 := by
  unfold stepsLeft
  cases hphase : p.phase with
  | spawned => simp
  | idle tick => simp
  | cycling tick c => exact Nat.add_le_add_right (Cycle.stepsLeft_le (h tick c hphase)) 2
  | ended => simp

end Prober

end Failover
