import Failover.Proofs.Prober.Progress

/-!
# The turns of a probe cycle

Which probe of a cycle goes on next is not left open. All of them set out at the time at which the
cycle begins, in the order of their indices, and their ends are taken in at the times at which they
arrive, those of one time in the order of their indices (`Cycle.Turn.Before`). A probe whose end
arrives at once has it taken in before the next one sets out.

So it does not matter what goes on around a cycle, and where a fault breaks it off is known from the
answers alone. Every probe that sets out before that moment does so, every end that arrives before
it is taken in, and nothing after it (`Cycle.Ran`). `Cycle.Midway` is what the turns keep until
then.
-/

namespace Failover

variable {σ : Type}

namespace Cycle

/-! ## Turns -/

/-- What a probe does in a turn. -/
inductive TurnKind where
  | setsOut
  | ends
deriving DecidableEq

/-- A turn of a probe: what it does and when, and how it ends, which is settled when it sets out. -/
structure Turn where
  kind : TurnKind
  index : Nat
  time : Nat
  settled : Rpc.Settled

namespace Turn

/-- The probe with an index sets out in a cycle that began at a time. -/
def setOut (start index : Nat) (settled : Rpc.Settled) : Turn := ⟨.setsOut, index, start, settled⟩

/-- The end of the probe with an index arrives in a cycle that began at a time. -/
def arrive (start index : Nat) (settled : Rpc.Settled) : Turn :=
  ⟨.ends, index, start + settled.after, settled⟩

/-- The order in which the ends of probes are taken in. -/
def Before (x y : Turn) : Prop :=
  x.settled.after < y.settled.after ∨ x.settled.after = y.settled.after ∧ x.index < y.index

end Turn

/-- The turns in which probes set out. -/
def departures (turns : List Turn) : List Turn := turns.filter (·.kind = .setsOut)

/-- The turns in which ends of probes are taken in. -/
def arrivals (turns : List Turn) : List Turn := turns.filter (·.kind = .ends)

section Concat

variable (turns : List Turn) (start index : Nat) (a : Rpc.Settled)

@[simp] lemma departures_setOut :
    departures (turns ++ [.setOut start index a]) =
      departures turns ++ [.setOut start index a] := by
  simp [departures, Turn.setOut]

@[simp] lemma departures_arrive :
    departures (turns ++ [.arrive start index a]) = departures turns := by
  simp [departures, Turn.arrive]

@[simp] lemma arrivals_setOut : arrivals (turns ++ [.setOut start index a]) = arrivals turns := by
  simp [arrivals, Turn.setOut]

@[simp] lemma arrivals_arrive :
    arrivals (turns ++ [.arrive start index a]) = arrivals turns ++ [.arrive start index a] := by
  simp [arrivals, Turn.arrive]

end Concat

/-- The turn that comes next in a cycle. -/
def turn? (setup : Setup σ) (w : World σ) (c : Cycle) : Option Turn :=
  match c.phase with
  | .faulted _ => none
  | .running probes =>
    (c.dueIndex? w.now).bind fun index =>
      match probes[index]?, setup.registry.get? index with
      | some .unsent, some endpoint =>
        some (.setOut w.now index (w.send setup endpoint c.request).1)
      | some (.waiting since settled), some _ => some (.arrive since index settled)
      | _, _ => none

/-- What breaks a cycle off at the end of a probe: the fault of the probe itself, or the one of a
clock that cannot show the end of the breaker that its failure opens. -/
def Breaks (a : Rpc.Settled) (f : Fault) : Prop :=
  a.ending = .fault f ∨
    f = .clockOverflow ∧ ∃ r failure, a.ending = .result r ∧ outcome r = .error failure

/-! ## Between two turns -/

/-- A cycle that began at a time and still runs, after some turns: how the probes that have set out
end, in the order of their indices, and what each probe does at the moment. -/
structure Midway (size start : Nat) (answers : List Rpc.Settled) (turns : List Turn)
    (probes : List ProbePhase) (now : Nat) : Prop where
  length : probes.length = size
  bound : answers.length ≤ size
  departed : departures turns = answers.mapIdx (Turn.setOut start)
  /-- What has been taken in are results. -/
  arrived : ∀ x ∈ arrivals turns, ∃ a r, answers[x.index]? = some a ∧
    x = .arrive start x.index a ∧ x.time ≤ now ∧ a.ending = .result r ∧
    probes[x.index]? = some .done
  ordered : (arrivals turns).Pairwise Turn.Before
  unsent : ∀ i, answers.length ≤ i → i < size → probes[i]? = some .unsent
  sent : ∀ i a, answers[i]? = some a →
    probes[i]? = some (.waiting start a) ∨ .arrive start i a ∈ arrivals turns
  /-- No time passes before all probes have set out. -/
  early : answers.length < size → now = start
  /-- An end that is still on its way comes after all that have been taken in. -/
  waiting : ∀ i a, answers[i]? = some a → probes[i]? = some (.waiting start a) →
    now ≤ start + a.after ∧ (i + 1 < answers.length → 0 < a.after) ∧
      ∀ x ∈ arrivals turns, x.Before (.arrive start i a)

/-- A cycle that has come to its end after some turns: how the probes that have set out end, and the
probe at whose end it broke off, if it did. -/
structure Ran (size start : Nat) (answers : List Rpc.Settled) (culprit? : Option Nat)
    (fault? : Option Fault) (turns : List Turn) : Prop where
  /-- The probes set out one after the other when the cycle begins. -/
  departed : departures turns = answers.mapIdx (Turn.setOut start)
  /-- All of them do, but for those after a culprit whose end arrives at once. -/
  sent : ∀ i, i < answers.length ↔ i < size ∧
    ∀ j ∈ culprit?, ∀ b, answers[j]? = some b → b.after = 0 → i ≤ j
  /-- The ends that come no later than that of the culprit are taken in, each when it arrives. -/
  arrived : ∀ x, x ∈ arrivals turns ↔ ∃ i a, answers[i]? = some a ∧ x = .arrive start i a ∧
    ∀ j ∈ culprit?, ∀ b, answers[j]? = some b →
      ¬ (Turn.arrive start j b).Before (.arrive start i a)
  ordered : (arrivals turns).Pairwise Turn.Before
  /-- All that is taken in before the end of the culprit are results. -/
  results : ∀ i a, .arrive start i a ∈ arrivals turns → some i ≠ culprit? →
    ∃ r, a.ending = .result r
  unbroken : culprit? = none → fault? = none
  broken : ∀ j ∈ culprit?, ∃ b f, answers[j]? = some b ∧ Breaks b f ∧ fault? = some f

variable {setup : Setup σ} {w : World σ} {c : Cycle} {out : World σ × Cycle × Journal}
  {size start now i : Nat} {answers : List Rpc.Settled} {turns : List Turn}
  {probes : List ProbePhase} {a : Rpc.Settled}

/-- A cycle that has only just begun is midway, with every probe unsent and no turn taken. -/
lemma midway_start (size start : Nat) :
    Midway size start [] [] (List.replicate size .unsent) start where
  length := List.length_replicate
  bound := Nat.zero_le _
  departed := rfl
  arrived := nofun
  ordered := List.Pairwise.nil
  unsent := by
    intro i _ hlt
    rw [List.getElem?_replicate, if_pos hlt]
  sent := nofun
  early := fun _ => rfl
  waiting := nofun

/-- No probe before an index can go on. -/
def FirstDue (now : Nat) (probes : List ProbePhase) (i : Nat) : Prop :=
  ∀ k probe, k < i → probes[k]? = some probe → isDue now probe = false

/-- The index a cycle finds due is the first probe that is due. -/
lemma firstDue_of_dueIndex? (hphase : c.phase = .running probes)
    (h : c.dueIndex? now = some i) : FirstDue now probes i := by
  rw [dueIndex?, hphase] at h
  obtain ⟨_, -, hbefore⟩ := List.findIdx?_eq_some_iff_getElem.mp h
  intro k probe hk hprobe
  obtain ⟨hlt, rfl⟩ := List.getElem?_eq_some_iff.mp hprobe
  exact Bool.eq_false_of_not_eq_true (hbefore k hk)

namespace Midway

/-- The probes of a cycle have the indices of its endpoints. -/
lemma lt_size (h : Midway size start answers turns probes now) {probe : ProbePhase}
    (hprobe : probes[i]? = some probe) : i < size := by
  rw [← h.length]
  exact (List.getElem?_eq_some_iff.mp hprobe).1

/-- Every probe has not set out yet, is on its way or is done. -/
lemma phase_cases (h : Midway size start answers turns probes now) {probe : ProbePhase}
    (hprobe : probes[i]? = some probe) :
    (answers.length ≤ i ∧ probe = .unsent) ∨
      ∃ a, answers[i]? = some a ∧ (probe = .waiting start a ∨ probe = .done) := by
  rcases Nat.lt_or_ge i answers.length with hsent | hunsent
  · right
    refine ⟨answers[i], List.getElem?_eq_getElem hsent, ?_⟩
    rcases h.sent i _ (List.getElem?_eq_getElem hsent) with hwaiting | harrived
    · exact Or.inl (Option.some.inj (hprobe.symm.trans hwaiting))
    · obtain ⟨-, -, -, -, -, -, hdone⟩ := h.arrived _ harrived
      exact Or.inr (Option.some.inj (hprobe.symm.trans hdone))
  · exact Or.inl ⟨hunsent,
      Option.some.inj (hprobe.symm.trans (h.unsent i hunsent (h.lt_size hprobe)))⟩

/-- Time may pass as long as no probe can go on. -/
lemma later (h : Midway size start answers turns probes now) {t : Nat} (hlater : now ≤ t)
    (hphase : c.phase = .running probes) (hwakes : ∀ u, c.wakesAt? now = some u → t ≤ u) :
    Midway size start answers turns probes t := by
  have hle : ∀ (i : Nat) probe u, probes[i]? = some probe → probeWakesAt? now probe = some u →
      t ≤ u := by
    intro i probe u hprobe hu
    have hmem : u ∈ probes.filterMap (probeWakesAt? now) :=
      List.mem_filterMap.mpr ⟨probe, List.mem_of_getElem? hprobe, hu⟩
    obtain ⟨v, hv⟩ := Option.isSome_iff_exists.mp (List.isSome_min?_of_mem hmem)
    have hmin : v ≤ u := (List.min?_eq_some_iff.mp hv).2 u hmem
    refine (hwakes v ?_).trans hmin
    rw [wakesAt?, hphase]
    exact hv
  refine { h with arrived := ?_, early := ?_, waiting := ?_ }
  · intro x hx
    obtain ⟨a, r, ha, heq, htime, hrest⟩ := h.arrived x hx
    exact ⟨a, r, ha, heq, htime.trans hlater, hrest⟩
  · intro hlt
    have hunsent := h.unsent answers.length (Nat.le_refl _) hlt
    exact (Nat.le_antisymm (hle _ _ now hunsent rfl) hlater).trans (h.early hlt)
  · intro i a ha hwaiting
    exact ⟨hle _ _ _ hwaiting rfl, (h.waiting i a ha hwaiting).2⟩

/-! ## Departures -/

/-- An answer after another one is given was there before, or it is this one. -/
lemma getElem?_concat_cases {k : Nat} {b : Rpc.Settled} (h : (answers ++ [a])[k]? = some b) :
    answers[k]? = some b ∨ k = answers.length ∧ a = b := by
  rw [List.getElem?_append] at h
  split at h
  · exact Or.inl h
  · obtain ⟨hk, rfl⟩ := List.getElem?_eq_some_iff.mp h
    rw [List.length_singleton] at hk
    exact Or.inr ⟨by omega, by simp⟩

/-- A probe sets out when the cycle begins, and after all that have a lower index. -/
lemma departs (h : Midway size start answers turns probes now) (hprobe : probes[i]? = some .unsent)
    (hfirst : FirstDue now probes i) : answers.length = i ∧ now = start := by
  have hlength : answers.length = i := by
    rcases h.phase_cases hprobe with ⟨hle, -⟩ | ⟨a, -, hwaiting | hdone⟩
    · by_contra hne
      have hlt := h.lt_size hprobe
      have hunsent := h.unsent answers.length (Nat.le_refl _) (by omega)
      cases hfirst answers.length _ (by omega) hunsent
    · cases hwaiting
    · cases hdone
  exact ⟨hlength, h.early (hlength ▸ h.lt_size hprobe)⟩

/-- When a probe sets out, what has been taken in had arrived at once, so the end of this probe
comes after it. -/
lemma before_departure (h : Midway size start answers turns probes start) (a : Rpc.Settled)
    {x : Turn} (hx : x ∈ arrivals turns) : x.Before (.arrive start answers.length a) := by
  obtain ⟨b, -, hb, heq, hle, -, -⟩ := h.arrived x hx
  have hindex := (List.getElem?_eq_some_iff.mp hb).1
  rw [heq] at hle ⊢
  have hatOnce : b.after = 0 := Nat.le_zero.mp (Nat.le_of_add_le_add_left hle)
  rcases Nat.eq_zero_or_pos a.after with hzero | hpos
  · exact Or.inr ⟨hatOnce.trans hzero.symm, hindex⟩
  · exact Or.inl (hatOnce.trans_lt hpos)

/-- Sending the first due probe keeps a cycle midway; its answer is recorded with its turn. -/
lemma setOut (h : Midway size start answers turns probes now) (hprobe : probes[i]? = some .unsent)
    (hfirst : FirstDue now probes i) (a : Rpc.Settled) :
    Midway size start (answers ++ [a]) (turns ++ [.setOut now i a])
      (probes.set i (.waiting now a)) now := by
  obtain ⟨rfl, rfl⟩ := h.departs hprobe hfirst
  have hlt := h.lt_size hprobe
  have hold : ∀ {k : Nat} {b : Rpc.Settled}, answers[k]? = some b →
      (answers ++ [a])[k]? = some b ∧
        (probes.set answers.length (.waiting now a))[k]? = probes[k]? := by
    intro k b hb
    have hk := (List.getElem?_eq_some_iff.mp hb).1
    exact ⟨(List.getElem?_append_left hk).trans hb, List.getElem?_set_ne (Nat.ne_of_gt hk)⟩
  constructor
  case length => rw [List.length_set, h.length]
  case bound =>
    rw [List.length_append, List.length_singleton]
    omega
  case departed =>
    rw [departures_setOut, h.departed, List.mapIdx_concat]
  case arrived =>
    rw [arrivals_setOut]
    intro x hx
    obtain ⟨b, r, hb, heq, hle, hr, hdone⟩ := h.arrived x hx
    exact ⟨b, r, (hold hb).1, heq, hle, hr, (hold hb).2.trans hdone⟩
  case ordered =>
    rw [arrivals_setOut]
    exact h.ordered
  case unsent =>
    intro k hle hk
    rw [List.length_append, List.length_singleton] at hle
    rw [List.getElem?_set_ne (by omega)]
    exact h.unsent k (by omega) hk
  case sent =>
    rw [arrivals_setOut]
    intro k b hb
    rcases getElem?_concat_cases hb with hb | ⟨rfl, rfl⟩
    · rw [(hold hb).2]
      exact h.sent k b hb
    · exact Or.inl (List.getElem?_set_self (h.length.symm ▸ hlt))
  case early => exact fun _ => rfl
  case waiting =>
    rw [arrivals_setOut]
    intro k b hb hwaiting
    rcases getElem?_concat_cases hb with hb | ⟨rfl, rfl⟩
    · rw [(hold hb).2] at hwaiting
      obtain ⟨hle, -, hafter⟩ := h.waiting k b hb hwaiting
      -- the probe would be due before the one that sets out
      have hdue := hfirst k _ (List.getElem?_eq_some_iff.mp hb).1 hwaiting
      have hlate : ¬ now + b.after ≤ now := of_decide_eq_false hdue
      exact ⟨hle, fun _ => by omega, hafter⟩
    · refine ⟨Nat.le_add_right _ _, fun hlast => ?_, fun x hx => h.before_departure a hx⟩
      rw [List.length_append, List.length_singleton] at hlast
      omega

/-! ## Arrivals -/

/-- The end of a probe that can be taken in has just arrived. Whatever else is on its way comes
after it, and if it arrived at once it is that of the last probe to set out. -/
lemma arrives (h : Midway size start answers turns probes now) {since : Nat}
    (hprobe : probes[i]? = some (.waiting since a)) (hdue : since + a.after ≤ now)
    (hfirst : FirstDue now probes i) :
    answers[i]? = some a ∧ since = start ∧ now = start + a.after ∧
      answers.length = (if a.after = 0 then i + 1 else size) ∧
      ∀ k b, k ≠ i → answers[k]? = some b → probes[k]? = some (.waiting start b) →
        (Turn.arrive start i a).Before (.arrive start k b) := by
  obtain ⟨rfl, ha⟩ : since = start ∧ answers[i]? = some a := by
    rcases h.phase_cases hprobe with ⟨-, hunsent⟩ | ⟨b, hb, hwaiting | hdone⟩
    · cases hunsent
    · cases hwaiting
      exact ⟨rfl, hb⟩
    · cases hdone
  obtain ⟨hle, hlast, -⟩ := h.waiting i a ha hprobe
  have hnow : now = since + a.after := Nat.le_antisymm hle hdue
  have hlt := (List.getElem?_eq_some_iff.mp ha).1
  refine ⟨ha, rfl, hnow, ?_, ?_⟩
  · split
    case isTrue hzero =>
      by_contra hne
      have hpos := hlast (by omega)
      omega
    case isFalse hpos =>
      by_contra hne
      have hbound := h.bound
      have hearly := h.early (by omega)
      omega
  · intro k b hne hb hwaiting
    show a.after < b.after ∨ a.after = b.after ∧ i < k
    obtain ⟨hk, -⟩ := h.waiting k b hb hwaiting
    rcases Nat.lt_or_gt_of_ne hne with hlow | hhigh
    · have hlate : ¬ since + b.after ≤ now := of_decide_eq_false (hfirst k _ hlow hwaiting)
      omega
    · omega

/-- An end that is on its way comes last. -/
lemma ordered_concat (h : Midway size start answers turns probes now) (ha : answers[i]? = some a)
    (hprobe : probes[i]? = some (.waiting start a)) :
    (arrivals turns ++ [Turn.arrive start i a]).Pairwise Turn.Before := by
  refine List.pairwise_append.mpr ⟨h.ordered, List.pairwise_singleton _ _, ?_⟩
  intro x hx y hy
  obtain rfl := List.mem_singleton.mp hy
  exact (h.waiting i a ha hprobe).2.2 x hx

/-- With the end of a probe that can be taken in, all ends that do not come after it have been. -/
lemma mem_arrivals_concat_iff (h : Midway size start answers turns probes now) {since : Nat}
    (hprobe : probes[i]? = some (.waiting since a)) (hdue : since + a.after ≤ now)
    (hfirst : FirstDue now probes i) (x : Turn) :
    x ∈ arrivals turns ++ [.arrive start i a] ↔ ∃ k b, answers[k]? = some b ∧
      x = .arrive start k b ∧ ¬ (Turn.arrive start i a).Before (.arrive start k b) := by
  obtain ⟨ha, rfl, -, -, hnext⟩ := h.arrives hprobe hdue hfirst
  constructor
  · intro hx
    rcases List.mem_append.mp hx with hx | hx
    · obtain ⟨b, -, hb, heq, -, -, -⟩ := h.arrived x hx
      refine ⟨x.index, b, hb, heq, ?_⟩
      have hbefore := (h.waiting i a ha hprobe).2.2 x hx
      rw [heq] at hbefore
      simp only [Turn.Before, Turn.arrive] at hbefore ⊢
      omega
    · obtain rfl := List.mem_singleton.mp hx
      exact ⟨i, a, ha, rfl, by simp [Turn.Before]⟩
  · rintro ⟨k, b, hb, rfl, hbefore⟩
    by_cases heq : k = i
    · subst heq
      cases ha.symm.trans hb
      exact List.mem_append_right _ (List.mem_singleton.mpr rfl)
    · refine List.mem_append_left _ ((h.sent k b hb).resolve_left ?_)
      intro hwaiting
      exact hbefore (hnext k b heq hb hwaiting)

/-- The arrival of the first due answer, if it is a result, keeps a cycle midway. -/
lemma arrive (h : Midway size start answers turns probes now) {since : Nat}
    (hprobe : probes[i]? = some (.waiting since a)) (hdue : since + a.after ≤ now)
    (hfirst : FirstDue now probes i) {r : Rpc.Result Json} (hr : a.ending = .result r) :
    Midway size start answers (turns ++ [.arrive since i a]) (probes.set i .done) now := by
  obtain ⟨ha, rfl, -, -, hnext⟩ := h.arrives hprobe hdue hfirst
  have hdone : (probes.set i .done)[i]? = some .done :=
    List.getElem?_set_self (h.length.symm ▸ h.lt_size hprobe)
  have hwaiting : ∀ {k : Nat} {b : Rpc.Settled},
      (probes.set i .done)[k]? = some (.waiting since b) →
        k ≠ i ∧ probes[k]? = some (.waiting since b) := by
    intro k b hk
    have hne : k ≠ i := by
      rintro rfl
      cases hdone.symm.trans hk
    rw [List.getElem?_set_ne hne.symm] at hk
    exact ⟨hne, hk⟩
  constructor
  case length => rw [List.length_set, h.length]
  case bound => exact h.bound
  case departed => rw [departures_arrive, h.departed]
  case arrived =>
    rw [arrivals_arrive]
    intro x hx
    rcases List.mem_append.mp hx with hx | hx
    · obtain ⟨b, q, hb, heq, hle, hq, hx⟩ := h.arrived x hx
      refine ⟨b, q, hb, heq, hle, hq, ?_⟩
      rw [List.getElem?_set]
      split
      case isTrue => rw [if_pos (h.length.symm ▸ h.lt_size hprobe)]
      case isFalse => exact hx
    · obtain rfl := List.mem_singleton.mp hx
      exact ⟨a, r, ha, rfl, hdue, hr, hdone⟩
  case ordered =>
    rw [arrivals_arrive]
    exact h.ordered_concat ha hprobe
  case unsent =>
    intro k hle hk
    have hne : k ≠ i := by
      have hlt := (List.getElem?_eq_some_iff.mp ha).1
      omega
    rw [List.getElem?_set_ne hne.symm]
    exact h.unsent k hle hk
  case sent =>
    rw [arrivals_arrive]
    intro k b hb
    by_cases heq : k = i
    · subst heq
      cases ha.symm.trans hb
      exact Or.inr (List.mem_append_right _ (List.mem_singleton.mpr rfl))
    · rw [List.getElem?_set_ne (Ne.symm heq)]
      exact (h.sent k b hb).imp_right (List.mem_append_left _)
  case early => exact h.early
  case waiting =>
    rw [arrivals_arrive]
    intro k b hb hk
    obtain ⟨hne, hk⟩ := hwaiting hk
    obtain ⟨hle, hlast, hafter⟩ := h.waiting k b hb hk
    refine ⟨hle, hlast, ?_⟩
    intro x hx
    rcases List.mem_append.mp hx with hx | hx
    · exact hafter x hx
    · obtain rfl := List.mem_singleton.mp hx
      exact hnext k b hne hb hk

/-! ## Ends of cycles -/

/-- Every answer that has arrived is a result. -/
lemma result_of_mem (h : Midway size start answers turns probes now)
    (hmem : .arrive start i a ∈ arrivals turns) : ∃ r, a.ending = .result r := by
  obtain ⟨b, r, -, heq, -, hr, -⟩ := h.arrived _ hmem
  obtain rfl : a = b := congrArg Turn.settled heq
  exact ⟨r, hr⟩

/-- A cycle whose probes are all done has come to its end without a fault. -/
lemma ran (h : Midway size start answers turns probes now)
    (hover : ∀ probe ∈ probes, probe = .done) : Ran size start answers none none turns := by
  have hall : ∀ {k : Nat} {b : Rpc.Settled}, answers[k]? = some b →
      .arrive start k b ∈ arrivals turns := by
    intro k b hb
    refine (h.sent k b hb).resolve_left ?_
    intro hwaiting
    cases hover _ (List.mem_of_getElem? hwaiting)
  have hlength : answers.length = size := by
    refine Nat.le_antisymm h.bound ?_
    by_contra hlt
    have hunsent := h.unsent answers.length (Nat.le_refl _) (by omega)
    cases hover _ (List.mem_of_getElem? hunsent)
  constructor
  case departed => exact h.departed
  case sent =>
    intro k
    rw [hlength]
    exact ⟨fun hk => ⟨hk, nofun⟩, And.left⟩
  case arrived =>
    intro x
    constructor
    · intro hx
      obtain ⟨a, -, ha, heq, -, -, -⟩ := h.arrived x hx
      exact ⟨x.index, a, ha, heq, nofun⟩
    · rintro ⟨k, b, hb, rfl, -⟩
      exact hall hb
  case ordered => exact h.ordered
  case results => exact fun k b hmem _ => h.result_of_mem hmem
  case unbroken => exact fun _ => rfl
  case broken => exact nofun

/-- A cycle that breaks off at the end of a probe has come to its end by a fault. -/
lemma ran_of_breaks (h : Midway size start answers turns probes now) {since : Nat}
    (hprobe : probes[i]? = some (.waiting since a)) (hdue : since + a.after ≤ now)
    (hfirst : FirstDue now probes i) {f : Fault} (hbreaks : Breaks a f) :
    Ran size start answers (some i) (some f) (turns ++ [.arrive since i a]) := by
  obtain ⟨ha, rfl, -, hlength, -⟩ := h.arrives hprobe hdue hfirst
  constructor
  case departed => rw [departures_arrive, h.departed]
  case sent =>
    intro k
    have hi := (List.getElem?_eq_some_iff.mp ha).1
    have hbound := h.bound
    constructor
    · intro hk
      refine ⟨hk.trans_le hbound, ?_⟩
      intro j hj b hb hzero
      cases hj
      cases ha.symm.trans hb
      rw [hlength, if_pos hzero] at hk
      exact Nat.le_of_lt_succ hk
    · rintro ⟨hk, hat⟩
      rw [hlength]
      split
      case isTrue hzero => exact Nat.lt_succ_of_le (hat i rfl a ha hzero)
      case isFalse => exact hk
  case arrived =>
    rw [arrivals_arrive]
    intro x
    rw [h.mem_arrivals_concat_iff hprobe hdue hfirst x]
    refine exists_congr fun k => exists_congr fun b => and_congr_right fun _ =>
      and_congr_right fun _ => ?_
    constructor
    · intro hbefore j hj c hc
      cases hj
      cases ha.symm.trans hc
      exact hbefore
    · intro hbefore
      exact hbefore i rfl a ha
  case ordered =>
    rw [arrivals_arrive]
    exact h.ordered_concat ha hprobe
  case results =>
    rw [arrivals_arrive]
    intro k b hmem hne
    rcases List.mem_append.mp hmem with hmem | hmem
    · exact h.result_of_mem hmem
    · obtain rfl : k = i := congrArg Turn.index (List.mem_singleton.mp hmem)
      exact absurd rfl hne
  case unbroken => exact nofun
  case broken =>
    intro j hj
    cases hj
    exact ⟨a, f, ha, hbreaks, rfl⟩

end Midway

/-! ## Steps -/

/-- What a turn sends. -/
def Turn.sendings (registry : Registry) (request : Rpc.Request) (x : Turn) : List Sending :=
  match x.kind, registry.get? x.index with
  | .setsOut, some endpoint => [⟨x.time, endpoint.url, request⟩]
  | _, _ => []

/-- What a turn asks of the tracker: to take in the success or the failure of its probe. -/
def Turn.deeds (registry : Registry) (x : Turn) : List Tracker.Deed :=
  match x.kind, registry.get? x.index, x.settled.ending with
  | .ends, some endpoint, .result r =>
    match outcome r with
    | .ok _ => [.success x.index endpoint (Duration.ofMillis x.settled.after) .probe]
    | .error _ => [.failure x.index endpoint .probe]
  | _, _, _ => []

/-- A turn was taken in a world, with a world after it and what it left in the journal. -/
structure Turn.Taken (setup : Setup σ) (request : Rpc.Request) (x : Turn) (w next : World σ)
    (notes : Journal) : Prop where
  time : x.time = w.now
  sendings : notes.sendings = x.sendings setup.registry request
  /-- The answer of a probe that sets out is that of the transport, under its deadline. -/
  settled : x.kind = .setsOut → ∀ endpoint, setup.registry.get? x.index = some endpoint →
    x.settled = (setup.transport.send w.wire endpoint request).1.settle endpoint.timeout
  tracker : next.tracker =
    w.tracker.replay ((x.deeds setup.registry).map (⟨setup.clock.afterMillis x.time, ·⟩))

/-- A step keeps the method of a cycle. -/
lemma method_of_stepAt? (h : c.stepAt? setup w i = some out) : out.2.1.method = c.method := by
  cases takes_of_stepAt? h <;> rfl

/-- Settling a probe sends nothing. -/
lemma sendings_settle (setup : Setup σ) (w : World σ) (c : Cycle) (probes : List ProbePhase)
    (index since : Nat) (endpoint : Endpoint) (ending : Rpc.Ending) :
    (c.settle setup w probes index since endpoint ending).2.2.sendings = [] := by
  unfold settle
  cases ending with
  | fault f => rfl
  | result r =>
    cases houtcome : outcome r with
    | ok v => simp [houtcome, (w.ofTracker_recordSuccess setup index endpoint _ _).sendings]
    | error failure =>
      have hquiet := (w.ofTracker_recordFailure setup index endpoint .probe).sendings
      simp only [houtcome]
      split <;> simp [hquiet]

/-- The only fault of a tracker is that of the clock. -/
lemma fault?_recordFailure {f : Fault} {endpoint : Endpoint} {observer : Observer}
    (h : (w.recordFailure setup i endpoint observer).2.2 = some f) : f = .clockOverflow := by
  change (w.tracker.recordFailure (w.reading setup) i endpoint observer).2.2 = some f at h
  unfold Tracker.recordFailure at h
  split at h
  case h_1 => cases h
  case h_2 =>
    dsimp only at h
    split at h
    case isTrue =>
      split at h
      case h_1 => exact (Option.some.inj h).symm
      case h_2 => cases h
    case isFalse => cases h

namespace Midway

/-- A step of a cycle is a turn, after which the cycle either goes on or has come to its end. -/
theorem step (h : Midway setup.registry.size start answers turns probes w.now)
    (hphase : c.phase = .running probes) (hstep : c.step? setup w = some out) :
    ∃ turn, c.turn? setup w = some turn ∧ turn.Taken setup c.request w out.1 out.2.2 ∧
      ((∃ answers' probes', out.2.1.phase = .running probes' ∧
          Midway setup.registry.size start answers' (turns ++ [turn]) probes' w.now) ∨
        ∃ f, out.2.1.phase = .faulted f ∧
          Ran setup.registry.size start answers (some turn.index) (some f) (turns ++ [turn])) := by
  obtain ⟨i, hindex, hat⟩ := Option.bind_eq_some_iff.mp hstep
  have hfirst := firstDue_of_dueIndex? hphase hindex
  have htracker := tracker_of_stepAt? hat
  have hends : ∀ {since : Nat} {a : Rpc.Settled} {endpoint : Endpoint},
      probes[i]? = some (.waiting since a) → since + a.after ≤ w.now →
      setup.registry.get? i = some endpoint →
      c.turn? setup w = some (.arrive since i a) ∧
        (Turn.arrive since i a).Taken setup c.request w out.1 out.2.2 := by
    intro since a endpoint hprobe hdue hget
    obtain ⟨-, rfl, hnow, -⟩ := h.arrives hprobe hdue hfirst
    refine ⟨by simp [turn?, hphase, hindex, hprobe, hget], hnow.symm, ?_, nofun, ?_⟩
    · rw [stepAt?, hphase] at hat
      dsimp only at hat
      rw [hprobe, hget] at hat
      dsimp only at hat
      rw [if_pos hdue] at hat
      cases hat
      exact sendings_settle ..
    · have hlatency : w.now - since = a.after := by omega
      have htime : (Turn.arrive since i a).time = w.now := hnow.symm
      have hdeeds : c.deeds setup w i = (Turn.arrive since i a).deeds setup.registry := by
        simp only [deeds, Turn.deeds, Turn.arrive, hphase, hprobe, hget, hlatency]
        cases a.ending <;> rfl
      rw [htracker, hdeeds, htime]
      rfl
  cases takes_of_stepAt? hat with
  | @send _ endpoint hphase' hprobe hget =>
    cases hphase.symm.trans hphase'
    obtain ⟨-, hnow⟩ := h.departs hprobe hfirst
    refine ⟨_, by simp [turn?, hphase, hindex, hprobe, hget], ⟨rfl, ?_, ?_, rfl⟩,
      Or.inl ⟨_, _, rfl, h.setOut hprobe hfirst _⟩⟩
    · rw [Turn.sendings]
      simp [Turn.setOut, hget, World.send]
    · intro _ endpoint' hget'
      cases hget.symm.trans hget'
      rfl
  | crash hphase' hprobe hdue hget hending =>
    cases hphase.symm.trans hphase'
    obtain ⟨hturn, htaken⟩ := hends hprobe hdue hget
    exact ⟨_, hturn, htaken, Or.inr ⟨_, rfl, h.ran_of_breaks hprobe hdue hfirst (.inl hending)⟩⟩
  | succeed hphase' hprobe hdue hget hending houtcome =>
    cases hphase.symm.trans hphase'
    obtain ⟨hturn, htaken⟩ := hends hprobe hdue hget
    exact ⟨_, hturn, htaken, Or.inl ⟨_, _, rfl, h.arrive hprobe hdue hfirst hending⟩⟩
  | fail hphase' hprobe hdue hget hending houtcome hfault =>
    cases hphase.symm.trans hphase'
    obtain ⟨hturn, htaken⟩ := hends hprobe hdue hget
    exact ⟨_, hturn, htaken, Or.inl ⟨_, _, rfl, h.arrive hprobe hdue hfirst hending⟩⟩
  | overflow hphase' hprobe hdue hget hending houtcome hfault =>
    cases hphase.symm.trans hphase'
    obtain ⟨hturn, htaken⟩ := hends hprobe hdue hget
    refine ⟨_, hturn, htaken, Or.inr ⟨_, rfl, h.ran_of_breaks hprobe hdue hfirst (.inr ?_)⟩⟩
    exact ⟨fault?_recordFailure hfault, _, _, hending, houtcome⟩

end Midway

end Cycle

end Failover
