import Failover.Proofs.Manager.Report
import Failover.Proofs.Manager.Strides
import Failover.Proofs.Prober.Progress

/-!
# The life of the background prober

The owner of a manager runs errands one after the other. A start puts a prober into the one place
that there is for it, a stop takes it out, and nothing else does either: whatever the transport
answers, and even if it faults, a prober that was not told to end goes on (`Manager.Sound`). A stop
waits no longer than it should, since no stride leads beyond its deadline, and it comes to its end,
since the prober has only so many steps before it. While the place is empty nobody probes.
-/

namespace Failover

/-! ## Errands -/

/-- What the owner of a manager does with it. -/
inductive Errand where
  | start
  | stop
  | call (request : Rpc.Request)
  | checkHealth
  | status
  /-- Time passes. -/
  | sleep (length : Duration)

/-- Whether an errand switches probing on or off, if it does. -/
def Errand.switch? : Errand → Option Bool
  | .start => some true
  | .stop => some false
  | _ => none

variable {σ : Type}

namespace Manager

/-- Runs an errand to its end: the manager after it and what it left in the journal. -/
def perform (m : Manager σ) : Errand → Manager σ × Journal
  | .start => m.start
  | .stop => m.stop
  | .call request => (m.call request).2
  | .checkHealth => m.checkHealth.2
  | .status => m.status.2
  | .sleep length => m.sleep length

/-- The manager after some errands. -/
def after (m : Manager σ) (errands : List Errand) : Manager σ :=
  errands.foldl (fun m errand => (m.perform errand).1) m

/-- The activity that an errand waits for, and the manager at its beginning. -/
def activity? (m : Manager σ) : Errand → Option (Manager σ × Foreground)
  | .start => none
  | .stop => m.prober.map fun p =>
    ({ m with prober := some p.stop },
      .join (some (m.world.now + m.settings.stopTimeout.timerMillis)))
  | .call request => some (m, .call m.world.now request)
  | .checkHealth => some (m, .cycle (Cycle.start m.settings.probeMethod m.setup.registry.size))
  | .status => none
  | .sleep length => some (m, .sleep (m.world.now + length.timerMillis))

/-- The strides of an errand. -/
def stridesOf (m : Manager σ) (errand : Errand) : List (Stride σ) :=
  match m.activity? errand with
  | some (m, f) => m.strides stepLimit f
  | none => []

/-- The strides of some errands. -/
def history (m : Manager σ) : List Errand → List (Stride σ)
  | [] => []
  | errand :: rest => m.stridesOf errand ++ (m.perform errand).1.history rest

variable {m m' : Manager σ} {f f' : Foreground} {x : Stride σ} {errand : Errand}

/-- The errands are run one after the other. -/
lemma after_cons (m : Manager σ) (errand : Errand) (rest : List Errand) :
    m.after (errand :: rest) = (m.perform errand).1.after rest := rfl

/-- A call is what its activity comes to. -/
lemma call_snd (m : Manager σ) (request : Rpc.Request) :
    (m.call request).2 =
      ((m.await (.call m.world.now request)).1, (m.await (.call m.world.now request)).2.2) := by
  unfold call
  generalize m.await (.call m.world.now request) = out
  obtain ⟨n, g, notes⟩ := out
  rfl

/-- What a check of the health leaves is what waiting for its cycle does. -/
lemma checkHealth_snd (m : Manager σ) :
    m.checkHealth.2 =
      ((m.await (.cycle (Cycle.start m.settings.probeMethod m.setup.registry.size))).1,
        (m.await (.cycle (Cycle.start m.settings.probeMethod m.setup.registry.size))).2.2) := by
  unfold checkHealth
  generalize m.await (.cycle (Cycle.start m.settings.probeMethod m.setup.registry.size)) = out
  obtain ⟨n, g, notes⟩ := out
  cases g <;> rfl

/-- To sleep is to wait for the end of a sleep. -/
lemma sleep_eq (m : Manager σ) (length : Duration) :
    m.sleep length =
      ((m.await (.sleep (m.world.now + length.timerMillis))).1,
        (m.await (.sleep (m.world.now + length.timerMillis))).2.2) := rfl

/-- An errand other than a stop does what its activity does. -/
lemma perform_of_activity? (hstop : errand ≠ .stop) (h : m.activity? errand = some (m', f)) :
    m' = m ∧ m.perform errand = ((m.await f).1, (m.await f).2.2) := by
  cases errand with
  | start => cases h
  | stop => exact absurd rfl hstop
  | call request =>
    cases h
    exact ⟨rfl, m.call_snd request⟩
  | checkHealth =>
    cases h
    exact ⟨rfl, m.checkHealth_snd⟩
  | status => cases h
  | sleep length =>
    cases h
    exact ⟨rfl, m.sleep_eq length⟩

/-! ## What strides leave alone -/

/-- The same manager as before, but for what changes from stride to stride. -/
structure Continues (m m' : Manager σ) : Prop where
  setup : m'.setup = m.setup
  settings : m'.settings = m.settings
  prober : m'.prober.isSome = m.prober.isSome

/-- A manager continues itself. -/
lemma Continues.refl (m : Manager σ) : m.Continues m := ⟨rfl, rfl, rfl⟩

/-- A stride continues what was begun. -/
lemma Continues.makes {start : Manager σ} (h : start.Continues m) (hmakes : m.Makes f x f') :
    start.Continues x.after := by
  cases hmakes with
  | owner => exact ⟨h.setup, h.settings, h.prober⟩
  | prober hp =>
    refine ⟨h.setup, h.settings, ?_⟩
    rw [← h.prober, hp]
    rfl
  | clock => exact ⟨h.setup, h.settings, h.prober⟩

/-- So does waiting. -/
lemma Continues.await {start : Manager σ} (h : start.Continues m) (f : Foreground) :
    start.Continues (m.await f).1 :=
  (strides_induction (P := fun n _ => start.Continues n) (Q := fun _ => True)
    (fun _ _ _ _ hn hmakes => ⟨hn.makes hmakes, trivial⟩) h stepLimit []).2

/-- A prober is there only with health checks, it has neither ended nor been told to, and its cycle
has a probe for every endpoint. -/
structure Sound (m : Manager σ) : Prop where
  enabled : m.prober.isSome → m.settings.healthChecksEnabled = true
  running : ∀ p, m.prober = some p → p.stopping = false ∧ p.isEnded = false
  covers : ∀ p, m.prober = some p → p.Covers m.setup.registry.size

/-- A prober is there and will go on: from some time on it makes its next step, whatever the world
is like by then. -/
def Probes (m : Manager σ) : Prop :=
  ∃ p t, m.prober = some p ∧ p.stopping = false ∧ p.isEnded = false ∧
    p.wakesAt? m.world.now = some t ∧
    ∀ w : World σ, t ≤ w.now → (p.step? m.setup w).isSome

/-- A manager without a prober is sound. -/
lemma sound_of_none (h : m.prober = none) : m.Sound where
  enabled := by simp [h]
  running := by simp [h]
  covers := by simp [h]

namespace Sound

/-- In a sound manager the prober runs if there is one. -/
lemma isRunning (h : m.Sound) : m.isRunning = m.prober.isSome := by
  unfold Manager.isRunning
  cases hp : m.prober with
  | none => rfl
  | some p => simp [(h.running p hp).2]

/-- A sound manager that runs its prober probes. -/
lemma probes (h : m.Sound) (hrunning : m.isRunning = true) : m.Probes := by
  rw [h.isRunning] at hrunning
  obtain ⟨p, hp⟩ := Option.isSome_iff_exists.mp hrunning
  obtain ⟨hstopping, hended⟩ := h.running p hp
  obtain ⟨t, ht, hstep⟩ := (h.covers p hp).exists_due hended m.world.now
  exact ⟨p, t, hp, hstopping, hended, ht, hstep⟩

/-- Every stride keeps a manager sound. -/
lemma makes (h : m.Sound) (hmakes : m.Makes f x f') : x.after.Sound := by
  cases hmakes with
  | owner => exact ⟨h.enabled, h.running, h.covers⟩
  | @prober p p' world notes hp hstep =>
    obtain ⟨hstopping, -⟩ := h.running p hp
    constructor
    · intro _
      exact h.enabled (by simp [hp])
    · intro q hq
      cases hq
      exact ⟨(Prober.stopping_of_step? hstep).trans hstopping,
        Prober.isEnded_of_step? hstep hstopping⟩
    · intro q hq
      cases hq
      exact (h.covers p hp).step hstep
  | clock => exact ⟨h.enabled, h.running, h.covers⟩

/-- All along an activity a manager stays sound and the same. -/
lemma strides (h : m.Sound) (fuel : Nat) (f : Foreground) (past : List Note) :
    (∀ x ∈ m.strides fuel f, x.after.Sound ∧ m.Continues x.after) ∧
      (m.drive fuel f past).1.Sound ∧ m.Continues (m.drive fuel f past).1 := by
  refine strides_induction (P := fun n _ => n.Sound ∧ m.Continues n) ?_ ⟨h, .refl m⟩ fuel past
  intro n g x g' ⟨hsound, hcontinues⟩ hmakes
  have hafter := And.intro (hsound.makes hmakes) (hcontinues.makes hmakes)
  exact ⟨hafter, hafter⟩

end Sound

/-! ## What errands do to the prober -/

/-- A stop waits for the prober to end, and there is none after it. -/
lemma stop_fst {p : Prober} (hp : m.prober = some p) :
    m.stop.1 =
      { (({ m with prober := some p.stop } : Manager σ).await
          (.join (some (m.world.now + m.settings.stopTimeout.timerMillis)))).1 with
        prober := none } := by
  unfold stop
  rw [hp]

/-- Without a prober there is nothing to stop. -/
lemma stop_of_none (h : m.prober = none) : m.stop = (m, []) := by
  unfold stop
  rw [h]

/-- After a stop there is no prober. -/
lemma prober_stop (m : Manager σ) : m.stop.1.prober = none := by
  cases hp : m.prober with
  | none => rw [stop_of_none hp, hp]
  | some p => rw [stop_fst hp]

/-- A stop changes neither the setup nor the settings. -/
lemma setup_stop (m : Manager σ) : m.stop.1.setup = m.setup ∧ m.stop.1.settings = m.settings := by
  have hwithout : ∀ n : Manager σ, m.Continues n →
      ({ n with prober := none } : Manager σ).setup = m.setup ∧
        ({ n with prober := none } : Manager σ).settings = m.settings :=
    fun n hn => ⟨hn.setup, hn.settings⟩
  cases hp : m.prober with
  | none =>
    rw [stop_of_none hp]
    exact ⟨rfl, rfl⟩
  | some p =>
    have hstart : m.Continues { m with prober := some p.stop } := ⟨rfl, rfl, by simp [hp]⟩
    rw [stop_fst hp]
    exact hwithout _ (hstart.await _)

/-- A start puts a prober in if health checks are enabled. -/
lemma Sound.start (h : m.Sound) :
    m.start.1.Sound ∧ m.start.1.setup = m.setup ∧ m.start.1.settings = m.settings ∧
      m.start.1.prober.isSome = m.settings.healthChecksEnabled := by
  unfold Manager.start
  cases henabled : m.settings.healthChecksEnabled with
  | true =>
    cases hp : m.prober with
    | some p => exact ⟨h, rfl, rfl, by simp [hp]⟩
    | none =>
      refine ⟨⟨fun _ => henabled, ?_, ?_⟩, rfl, rfl, rfl⟩
      · intro p hp'
        cases hp'
        exact ⟨rfl, rfl⟩
      · intro p hp'
        cases hp'
        exact Prober.covers_new _ _ _
  | false =>
    refine ⟨h, rfl, rfl, ?_⟩
    cases hp : m.prober with
    | none => simp [hp]
    | some p =>
      have hcontra := h.enabled (by simp [hp])
      rw [henabled] at hcontra
      cases hcontra

/-- An activity other than that of a stop leaves the prober where it is. -/
lemma Sound.perform_of_activity? (h : m.Sound) (errand : Errand) (hstop : errand ≠ .stop)
    (hactivity : m.activity? errand = some (m', f)) :
    (m.perform errand).1.Sound ∧ m.Continues (m.perform errand).1 := by
  obtain ⟨rfl, hperform⟩ := Manager.perform_of_activity? hstop hactivity
  rw [hperform]
  exact (h.strides stepLimit f []).2

/-- What an errand does to a sound manager: a start puts a prober in if health checks are enabled, a
stop takes it out, and everything else leaves it there. -/
lemma Sound.perform (h : m.Sound) (errand : Errand) :
    (m.perform errand).1.Sound ∧ (m.perform errand).1.setup = m.setup ∧
      (m.perform errand).1.settings = m.settings ∧
      (m.perform errand).1.prober.isSome =
        match errand.switch? with
        | some on => m.settings.healthChecksEnabled && on
        | none => m.prober.isSome := by
  cases errand with
  | start =>
    obtain ⟨hsound, hsetup, hsettings, hprober⟩ := h.start
    exact ⟨hsound, hsetup, hsettings, hprober.trans (Bool.and_true _).symm⟩
  | stop =>
    obtain ⟨hsetup, hsettings⟩ := m.setup_stop
    refine ⟨sound_of_none m.prober_stop, hsetup, hsettings, ?_⟩
    show m.stop.1.prober.isSome = (m.settings.healthChecksEnabled && false)
    rw [prober_stop, Bool.and_false]
    rfl
  | call request =>
    obtain ⟨hsound, hsame⟩ := h.perform_of_activity? (.call request) nofun rfl
    exact ⟨hsound, hsame.setup, hsame.settings, hsame.prober⟩
  | checkHealth =>
    obtain ⟨hsound, hsame⟩ := h.perform_of_activity? .checkHealth nofun rfl
    exact ⟨hsound, hsame.setup, hsame.settings, hsame.prober⟩
  | status => exact ⟨⟨h.enabled, h.running, h.covers⟩, rfl, rfl, rfl⟩
  | sleep length =>
    obtain ⟨hsound, hsame⟩ := h.perform_of_activity? (.sleep length) nofun rfl
    exact ⟨hsound, hsame.setup, hsame.settings, hsame.prober⟩

/-- After some errands a sound manager is sound, with the same setup and settings. -/
lemma Sound.after (h : m.Sound) (errands : List Errand) :
    (m.after errands).Sound ∧ (m.after errands).setup = m.setup ∧
      (m.after errands).settings = m.settings := by
  induction errands generalizing m with
  | nil => exact ⟨h, rfl, rfl⟩
  | cons errand rest ih =>
    obtain ⟨hsound, hsetup, hsettings, -⟩ := h.perform errand
    obtain ⟨hafter, hsetup', hsettings'⟩ := ih hsound
    exact ⟨hafter, hsetup'.trans hsetup, hsettings'.trans hsettings⟩

/-- The prober runs if the latest errand that is a start or a stop is a start. -/
lemma Sound.isRunning_after (h : m.Sound) (errands : List Errand) :
    (m.after errands).isRunning =
      match (errands.filterMap Errand.switch?).getLast? with
      | some on => m.settings.healthChecksEnabled && on
      | none => m.isRunning := by
  induction errands generalizing m with
  | nil => rfl
  | cons errand rest ih =>
    obtain ⟨hsound, -, hsettings, hprober⟩ := h.perform errand
    rw [after_cons, ih hsound, hsettings, hsound.isRunning, hprober, h.isRunning]
    cases hswitch : errand.switch? with
    | none => rw [List.filterMap_cons_none hswitch]
    | some on =>
      rw [List.filterMap_cons_some hswitch, List.getLast?_cons]
      cases (rest.filterMap Errand.switch?).getLast? <;> rfl

/-- A prober that runs goes on through every errand but a stop. -/
lemma Sound.probes_perform (h : m.Sound) (hrunning : m.isRunning = true) (errand : Errand)
    (hstop : errand ≠ .stop) :
    (∀ x ∈ m.stridesOf errand, x.after.Probes) ∧ (m.perform errand).1.Probes := by
  have hsome : m.prober.isSome = true := h.isRunning.symm.trans hrunning
  constructor
  · intro x hx
    unfold stridesOf at hx
    cases hactivity : m.activity? errand with
    | none =>
      rw [hactivity] at hx
      cases hx
    | some out =>
      obtain ⟨m', f⟩ := out
      obtain ⟨rfl, -⟩ := Manager.perform_of_activity? hstop hactivity
      rw [hactivity] at hx
      obtain ⟨hsound, hsame⟩ := (h.strides stepLimit f []).1 x hx
      exact hsound.probes (by rw [hsound.isRunning, hsame.prober, hsome])
  · obtain ⟨hsound, -, -, hprober⟩ := h.perform errand
    refine hsound.probes ?_
    rw [hsound.isRunning, hprober]
    cases errand with
    | start => simp [Errand.switch?, h.enabled hsome]
    | stop => exact absurd rfl hstop
    | call request => exact hsome
    | checkHealth => exact hsome
    | status => exact hsome
    | sleep length => exact hsome

/-- Every stride of an errand is one that was possible. -/
lemma makes_of_mem_stridesOf (hx : x ∈ m.stridesOf errand) : ∃ f f', x.before.Makes f x f' := by
  unfold stridesOf at hx
  split at hx
  case h_1 => exact makes_of_mem_strides hx
  case h_2 => cases hx

/-- A cycle that a fault ended is told of, and the prober waits for the tick that is due next. -/
lemma Makes.idle_after_fault (hmakes : m.Makes f x f') (hactor : x.actor = .prober) {p : Prober}
    {tick : Nat} {c : Cycle} {fault : Fault} (hp : m.prober = some p)
    (hphase : p.phase = .cycling tick c) (hfault : c.fault? = some fault) :
    x.after.prober = some { p with phase := .idle tick } ∧
      x.notes = [.event (.cycleFaulted (fault.text.getD "unknown panic"))] := by
  have hover : c.isOver = true := by
    unfold Cycle.fault? at hfault
    unfold Cycle.isOver
    cases hc : c.phase with
    | running probes => simp [hc] at hfault
    | faulted f => rfl
  cases hmakes with
  | owner => cases hactor
  | clock => cases hactor
  | prober hp' hstep =>
    obtain rfl := Option.some.inj (hp.symm.trans hp')
    cases Prober.takes_of_step? hstep with
    | begin h => cases hphase.symm.trans h
    | quit h => cases hphase.symm.trans h
    | tick h => cases hphase.symm.trans h
    | probe h hgoes =>
      cases hphase.symm.trans h
      rw [hover] at hgoes
      cases hgoes
    | rest h _ _ htells =>
      cases hphase.symm.trans h
      exact ⟨rfl, htells fault hfault⟩

/-! ## Starts and ends -/

/-- Whether a prober is launched: a start that is not turned down. -/
def launches (m : Manager σ) : Errand → Bool
  | .start => m.start.2.events.isEmpty
  | _ => false

/-- Whether a prober is dismissed: a stop that tells how one ended. -/
def dismisses (m : Manager σ) : Errand → Bool
  | .stop => m.stop.2.events.any fun
    | .proberStopped => true
    | .proberOverdue _ => true
    | _ => false
  | _ => false

/-- The number of errands of a kind. -/
def tally (kind : Manager σ → Errand → Bool) (m : Manager σ) : List Errand → Nat
  | [] => 0
  | errand :: rest => (if kind m errand then 1 else 0) + tally kind (m.perform errand).1 rest

/-- A start launches a prober exactly if there is none yet and health checks are enabled. -/
lemma launches_start (m : Manager σ) :
    m.launches .start = (m.settings.healthChecksEnabled && !m.prober.isSome) := by
  unfold launches Manager.start
  cases m.settings.healthChecksEnabled with
  | false => rfl
  | true => cases m.prober <;> rfl

/-- A stop dismisses a prober exactly if there is one. -/
lemma dismisses_stop (m : Manager σ) : m.dismisses .stop = m.prober.isSome := by
  unfold dismisses
  cases hp : m.prober with
  | none =>
    rw [stop_of_none hp]
    rfl
  | some p =>
    have hends : ∃ past last, m.stop.2 = past ++ [.event last] ∧
        (last = .proberStopped ∨ ∃ n, last = .proberOverdue n) := by
      unfold stop
      rw [hp]
      refine ⟨_, _, rfl, ?_⟩
      split
      · exact Or.inl rfl
      · exact Or.inr ⟨_, rfl⟩
    obtain ⟨past, last, hnotes, hlast⟩ := hends
    rw [hnotes, Journal.events_append, List.any_append]
    rcases hlast with rfl | ⟨n, rfl⟩ <;> simp [Journal.events]

/-- Every errand keeps the books of launches and dismissals: a prober that runs was launched and is
not dismissed yet. -/
lemma Sound.tally_eq (h : m.Sound) (errands : List Errand) :
    tally launches m errands + (if m.isRunning then 1 else 0) =
      tally dismisses m errands + if (m.after errands).isRunning then 1 else 0 := by
  induction errands generalizing m with
  | nil => rfl
  | cons errand rest ih =>
    obtain ⟨hsound, -, -, hprober⟩ := h.perform errand
    have hrest := ih hsound
    have hstep : (if m.launches errand then 1 else 0) + (if m.isRunning then 1 else 0) =
        (if m.dismisses errand then 1 else 0) +
          if (m.perform errand).1.isRunning then 1 else 0 := by
      rw [hsound.isRunning, hprober, h.isRunning]
      cases errand with
      | start =>
        rw [launches_start]
        have henabled := h.enabled
        cases hp : m.prober <;> cases hon : m.settings.healthChecksEnabled <;>
          simp_all [dismisses, Errand.switch?]
      | stop =>
        rw [dismisses_stop]
        simp [launches, Errand.switch?]
      | call request => rfl
      | checkHealth => rfl
      | status => rfl
      | sleep length => rfl
    rw [after_cons]
    simp only [tally]
    omega

/-! ## Stops -/

/-- A join does not wait beyond its deadline. -/
lemma join_now_le {endsAt : Nat} (hnow : m.world.now ≤ endsAt) :
    (m.await (.join (some endsAt))).1.world.now ≤ endsAt := by
  have hjoin : ∀ (n : Manager σ) (g : Foreground) (x : Stride σ) (g' : Foreground),
      (g = .join (some endsAt) ∧ n.world.now ≤ endsAt) → n.Makes g x g' →
      (g' = .join (some endsAt) ∧ x.after.world.now ≤ endsAt) ∧ True := by
    rintro n g x g' ⟨rfl, hle⟩ hmakes
    refine ⟨?_, trivial⟩
    cases hmakes with
    | owner hstep => cases hstep
    | prober _ hstep => exact ⟨rfl, (Prober.now_of_step? hstep).le.trans hle⟩
    | @clock t _ hmoment _ =>
      refine ⟨rfl, ?_⟩
      show t ≤ endsAt
      unfold nextMoment? earliest? at hmoment
      cases hwakes : n.proberWakesAt? <;> rw [hwakes] at hmoment <;> cases hmoment
      · exact Nat.le_refl _
      · exact Nat.min_le_left _ _
  exact (strides_induction (P := fun n g => g = .join (some endsAt) ∧ n.world.now ≤ endsAt)
    (Q := fun _ => True) hjoin ⟨rfl, hnow⟩ stepLimit []).2.2

/-- A stop takes no longer than its timeout. -/
lemma now_stop_le (m : Manager σ) :
    m.stop.1.world.now ≤ m.world.now + m.settings.stopTimeout.timerMillis := by
  have hwithout : ∀ (n : Manager σ) (t : Nat), n.world.now ≤ t →
      ({ n with prober := none } : Manager σ).world.now ≤ t := fun n t hn => hn
  cases hp : m.prober with
  | none =>
    rw [stop_of_none hp]
    exact Nat.le_add_right _ _
  | some p =>
    rw [stop_fst hp]
    exact hwithout _ _ (join_now_le (Nat.le_add_right _ _))

/-- While a prober that is told to end has to wait, time moves on, to the deadline or to its next
step. -/
lemma step?_join_of_waiting {p : Prober} (hp : m.prober = some p)
    (hcovers : p.Covers m.setup.registry.size) {endsAt : Nat}
    (hover : (Foreground.join (some endsAt)).isOver m.world.now m.prober = false)
    (hwaits : p.step? m.setup m.world = none) :
    ∃ u, m.step? (.join (some endsAt)) = some (m.setNow u, .join (some endsAt), []) ∧
      (endsAt ≤ u ∨ (p.step? m.setup (m.setNow u).world).isSome) := by
  obtain ⟨hearly, hended⟩ : m.world.now < endsAt ∧ p.isEnded = false := by
    rw [hp] at hover
    simpa [Foreground.isOver] using hover
  obtain ⟨t, ht, hstep⟩ := hcovers.exists_due hended m.world.now
  have hlater : m.world.now < t := by
    by_contra hdue
    have hsome := hstep m.world (Nat.le_of_not_lt hdue)
    rw [hwaits] at hsome
    cases hsome
  have hmoment : m.nextMoment? (.join (some endsAt)) = some (min endsAt t) := by
    unfold nextMoment? proberWakesAt?
    rw [hp, Option.bind_some, ht]
    rfl
  have hmove : m.moveOn? (.join (some endsAt)) = some (m.setNow (min endsAt t)) := by
    unfold moveOn?
    rw [hmoment]
    exact if_pos (lt_min hearly hlater)
  refine ⟨min endsAt t, ?_, ?_⟩
  · have hquiet : m.stepProber? = none := by
      unfold stepProber?
      rw [hp]
      dsimp only
      rw [hwaits]
      rfl
    rw [step?_eq_stride?, stride?, hover, hquiet, hmove]
    rfl
  · by_cases hle : endsAt ≤ t
    · exact Or.inl (le_min (Nat.le_refl _) hle)
    · right
      refine hstep _ ?_
      show t ≤ min endsAt t
      exact le_min (Nat.le_of_not_le hle) (Nat.le_refl _)

/-- A prober that is told to end is waited for to its end or to the deadline: it has so many steps
before it, and between two of them time moves on at most once. -/
lemma isOver_join {p : Prober} (hp : m.prober = some p) (hstopping : p.stopping = true)
    (hcovers : p.Covers m.setup.registry.size) (endsAt : Nat) {fuel : Nat}
    (hfuel : 2 * p.stepsLeft + (if (p.step? m.setup m.world).isSome then 0 else 1) < fuel)
    (past : List Note) :
    let out := m.drive fuel (.join (some endsAt)) past
    out.2.1.isOver out.1.world.now out.1.prober = true := by
  induction fuel generalizing m p past with
  | zero => omega
  | succ fuel ih =>
    cases hover : (Foreground.join (some endsAt)).isOver m.world.now m.prober with
    | true =>
      rw [drive_of_isOver hover]
      exact hover
    | false =>
      cases hnext : p.step? m.setup m.world with
      | some out =>
        obtain ⟨world, p', notes⟩ := out
        have hstep : m.step? (.join (some endsAt)) =
            some ({ m with world := world, prober := some p' }, .join (some endsAt), notes) := by
          rw [step?_eq_stride?, stride?, hover]
          simp [Foreground.step?, stepProber?, hp, hnext]
        have hless := Prober.stepsLeft_of_step? hnext hstopping
        rw [hnext] at hfuel
        rw [drive_of_step hstep]
        refine ih (m := { m with world := world, prober := some p' }) rfl
          ((Prober.stopping_of_step? hnext).trans hstopping) (hcovers.step hnext) ?_ _
        dsimp only at hless ⊢
        split <;> simp only [Option.isSome_some, if_true] at hfuel <;> omega
      | none =>
        obtain ⟨u, hstep, hdue⟩ := step?_join_of_waiting hp hcovers hover hnext
        rw [hnext] at hfuel
        rw [drive_of_step hstep]
        rcases hdue with hlate | hsome
        · have hover' : (Foreground.join (some endsAt)).isOver (m.setNow u).world.now
              (m.setNow u).prober = true := by
            simp [Foreground.isOver, setNow, hlate]
          rw [drive_of_isOver hover']
          exact hover'
        · refine ih (m := m.setNow u) hp hstopping hcovers ?_ _
          have hsetup : (m.setNow u).setup = m.setup := rfl
          rw [hsetup, if_pos hsome]
          simp only [Option.isSome_none, Bool.false_eq_true, if_false] at hfuel
          omega

/-- A stop waits for the end of its prober or for the deadline, and for no more strides than four
for each endpoint and six. -/
lemma Sound.isOver_stop (h : m.Sound) {p : Prober} (hp : m.prober = some p) {fuel : Nat}
    (hfuel : 4 * m.setup.registry.size + 6 ≤ fuel) (endsAt : Nat) :
    let out := ({ m with prober := some p.stop } : Manager σ).drive fuel (.join (some endsAt)) []
    out.2.1.isOver out.1.world.now out.1.prober = true := by
  have hcovers : p.stop.Covers m.setup.registry.size := h.covers p hp
  have hsteps := hcovers.stepsLeft_le
  refine isOver_join (m := { m with prober := some p.stop }) rfl rfl hcovers endsAt ?_ []
  split <;> omega

/-! ## Silence -/

/-- Where there is no prober none comes in, but by a start with health checks, and nobody probes in
the background. -/
lemma prober_perform_of_none (h : m.prober = none) (errand : Errand)
    (hstart : errand = .start → m.settings.healthChecksEnabled = false) :
    (m.perform errand).1.prober = none ∧ ∀ x ∈ m.stridesOf errand, x.actor ≠ .prober := by
  constructor
  · obtain ⟨-, -, -, hprober⟩ := (sound_of_none h).perform errand
    rw [← Option.not_isSome_iff_eq_none, hprober]
    cases errand with
    | start => simp [Errand.switch?, hstart rfl]
    | stop => simp [Errand.switch?]
    | call request => simp [Errand.switch?, h]
    | checkHealth => simp [Errand.switch?, h]
    | status => simp [Errand.switch?, h]
    | sleep length => simp [Errand.switch?, h]
  · have hquiet : ∀ (f : Foreground), ∀ x ∈ m.strides stepLimit f, x.actor ≠ .prober := by
      intro f
      refine (strides_induction (P := fun n _ => n.prober = none) ?_ h stepLimit []).1
      intro n g x g' hn hmakes
      cases hmakes with
      | owner => exact ⟨hn, nofun⟩
      | prober hp =>
        rw [hn] at hp
        cases hp
      | clock => exact ⟨hn, nofun⟩
    unfold stridesOf
    cases errand with
    | start =>
      intro x hx
      cases hx
    | stop =>
      intro x hx
      simp [activity?, h] at hx
    | call request => exact hquiet _
    | checkHealth => exact hquiet _
    | status =>
      intro x hx
      cases hx
    | sleep length => exact hquiet _

/-- As long as no prober comes in, nobody probes in the background. -/
lemma actor_ne_prober_of_none (h : m.prober = none) (errands : List Errand)
    (hstart : .start ∈ errands → m.settings.healthChecksEnabled = false) :
    ∀ x ∈ m.history errands, x.actor ≠ .prober := by
  induction errands generalizing m with
  | nil =>
    intro x hx
    cases hx
  | cons errand rest ih =>
    obtain ⟨hnone, hquiet⟩ := prober_perform_of_none h errand fun heq =>
      hstart (heq ▸ List.mem_cons_self)
    obtain ⟨-, -, hsettings, -⟩ := (sound_of_none h).perform errand
    have hrest := ih hnone fun hmem => by
      rw [hsettings]
      exact hstart (List.mem_cons_of_mem _ hmem)
    intro x hx
    rcases List.mem_append.mp hx with hx | hx
    · exact hquiet x hx
    · exact hrest x hx

/-! ## The law -/

/-- The life of the background prober of a manager that has run some errands. -/
structure Lifecycle (m : Manager σ) (errands : List Errand) : Prop where
  /-- All probers that were launched have been dismissed, but for the one that runs. -/
  at_most_one : tally launches m errands =
    tally dismisses m errands + if (m.after errands).isRunning then 1 else 0
  running_iff : (m.after errands).isRunning = true ↔ m.settings.healthChecksEnabled = true ∧
    (errands.filterMap Errand.switch?).getLast? = some true
  start_again : (m.after errands).isRunning = true →
    (m.after errands).start = (m.after errands, [.event .proberAlreadyRunning])
  /-- Only a stop ends it: through everything else it will go on. -/
  goes_on : (m.after errands).isRunning = true → ∀ errand, errand ≠ .stop →
    (∀ x ∈ (m.after errands).stridesOf errand, x.after.Probes) ∧
      ((m.after errands).perform errand).1.Probes
  /-- A fault ends a cycle and not the prober. -/
  survives : ∀ errand, ∀ x ∈ (m.after errands).stridesOf errand, ∀ p tick c fault,
    x.actor = .prober → x.before.prober = some p → p.phase = .cycling tick c →
    c.fault? = some fault →
    x.after.prober = some { p with phase := .idle tick } ∧
      x.notes = [.event (.cycleFaulted (fault.text.getD "unknown panic"))]
  stop_in_time : (m.after errands).stop.1.world.now ≤
    (m.after errands).world.now + m.settings.stopTimeout.timerMillis
  /-- What a stop waits for comes about, if it waits for so many strides. -/
  stop_returns : ∀ p fuel endsAt, (m.after errands).prober = some p →
    4 * m.setup.registry.size + 6 ≤ fuel →
    let out := ({ m.after errands with prober := some p.stop } : Manager σ).drive fuel
      (.join (some endsAt)) []
    out.2.1.isOver out.1.world.now out.1.prober = true
  silent_after_stop : ∀ later, .start ∉ later →
    ∀ x ∈ (m.after errands).stop.1.history later, x.actor ≠ .prober
  silent_without_health_checks : m.settings.healthChecksEnabled = false →
    ∀ x ∈ m.history errands, x.actor ≠ .prober

/-- **The background prober lives from a start to the next stop.** Whatever errands the owner of a
manager runs one after the other, and whatever the transport does meanwhile: at most one prober is
there at any time. It runs exactly if health checks are enabled and the latest start or stop was a
start, and a start that finds it running changes nothing. It survives the cycles that a fault ends,
and only a stop ends it. A stop returns within its timeout; after it, and always without health
checks, nobody probes in the background until the next start. -/
theorem prober_lives_from_start_to_stop {configs : List EndpointConfig} {settings : Settings}
    {transport : Rpc.Transport σ} {wire : σ} {clock : Clock} {draw : Nat → Nat} {m : Manager σ}
    {built : Journal}
    (hbuild : build configs settings transport wire clock draw = .ok (m, built))
    (errands : List Errand) : m.Lifecycle errands := by
  have hnone : m.prober = none := by
    obtain ⟨-, registry, -, rfl, -⟩ := build_eq_ok_iff.mp hbuild
    rfl
  have hidle : m.isRunning = false := by simp [isRunning, hnone]
  have hstart : m.Sound := sound_of_none hnone
  obtain ⟨hsound, hsetup, hsettings⟩ := hstart.after errands
  constructor
  case at_most_one =>
    have htally := hstart.tally_eq errands
    rw [hidle] at htally
    simpa using htally
  case running_iff =>
    rw [hstart.isRunning_after errands, hidle]
    cases (errands.filterMap Errand.switch?).getLast? with
    | none => simp
    | some on => cases on <;> simp
  case start_again =>
    intro hrunning
    have hsome : (m.after errands).prober.isSome = true := hsound.isRunning.symm.trans hrunning
    obtain ⟨p, hp⟩ := Option.isSome_iff_exists.mp hsome
    simp [start, hsound.enabled hsome, hp]
  case goes_on =>
    intro hrunning errand hstop
    exact hsound.probes_perform hrunning errand hstop
  case survives =>
    intro errand x hx p tick c fault hactor hp hphase hfault
    obtain ⟨f, f', hmakes⟩ := makes_of_mem_stridesOf hx
    exact hmakes.idle_after_fault hactor hp hphase hfault
  case stop_in_time =>
    rw [← hsettings]
    exact now_stop_le _
  case stop_returns =>
    intro p fuel endsAt hp hfuel
    rw [← hsetup] at hfuel
    exact hsound.isOver_stop hp hfuel endsAt
  case silent_after_stop =>
    intro later hlater
    exact actor_ne_prober_of_none (prober_stop _) later fun hmem => absurd hmem hlater
  case silent_without_health_checks =>
    intro hdisabled
    exact actor_ne_prober_of_none hnone errands fun _ => hdisabled

/-- A transport on which every probe ends in a fault: two starts, a second of sleep, a stop and
another second. The prober runs before the stop and not after it, one was launched and one
dismissed, the stop takes five seconds at most, and nobody probes in the second after it. -/
theorem prober_lives_from_start_to_stop_through_faults :
    let faulty : Rpc.Transport Unit := ⟨fun _ _ _ => (⟨5, .fault ⟨some "boom"⟩⟩, ())⟩
    let second := Duration.ofMillis 1000
    let errands := [.start, .start, .sleep second]
    ∃ m built,
      build [default] Settings.standard faulty () .standard (fun _ => 0) = .ok (m, built) ∧
      (m.after errands).isRunning = true ∧ (m.after errands).Probes ∧
      (m.after errands).stop.1.world.now ≤ (m.after errands).world.now + 5000 ∧
      (m.after (errands ++ [.stop, .sleep second])).isRunning = false ∧
      tally launches m (errands ++ [.stop, .sleep second]) =
        tally dismisses m (errands ++ [.stop, .sleep second]) ∧
      ∀ x ∈ (m.after errands).stop.1.history [.sleep second], x.actor ≠ .prober := by
  intro faulty second errands
  have hregistry : Registry.ofConfigs [default] = .ok _ :=
    Registry.ofConfigs_of_ordered (List.cons_ne_nil _ _) (by decide)
  let m := fresh ⟨[default].map Endpoint.ofConfig, by simp, by decide⟩ Settings.standard faulty ()
    .standard fun _ => 0
  have hbuild : build [default] Settings.standard faulty () .standard (fun _ => 0) = .ok (m, _) :=
    build_eq_ok_iff.mpr ⟨by decide, _, hregistry, rfl, rfl⟩
  have hlife := prober_lives_from_start_to_stop hbuild errands
  have hstarted := prober_lives_from_start_to_stop hbuild [.start, .start]
  have hstopped := prober_lives_from_start_to_stop hbuild (errands ++ [.stop, .sleep second])
  have hidle : (m.after (errands ++ [.stop, .sleep second])).isRunning = false := by
    rw [← Bool.not_eq_true, hstopped.running_iff]
    exact fun h => absurd h.2 (by decide)
  have htally := hstopped.at_most_one
  rw [hidle] at htally
  have htimeout : m.settings.stopTimeout.timerMillis = 5000 := by decide
  have htime := hlife.stop_in_time
  rw [htimeout] at htime
  exact ⟨m, _, hbuild, hlife.running_iff.mpr ⟨rfl, rfl⟩,
    (hstarted.goes_on (hstarted.running_iff.mpr ⟨rfl, rfl⟩) (.sleep second) nofun).2,
    htime, hidle, htally, hlife.silent_after_stop _ (by simp)⟩

end Manager

end Failover
