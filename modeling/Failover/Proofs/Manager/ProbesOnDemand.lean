import Failover.Proofs.Manager.Completion
import Failover.Proofs.Prober.Sweep

/-!
# Probe cycles on demand

When the owner of a manager asks for a probe cycle, the background prober may be running cycles of
its own, with the same endpoints and the same tracker. For the cycle that the owner waits for this
is one of the courses that a cycle can take, and it comes to its end no later than the longest
deadline of an endpoint is over.
-/

namespace Failover

variable {σ : Type} {setup : Setup σ} {w w₀ : World σ} {method : String}

namespace Cycle

/-- A cycle over some endpoints is not over when it begins. -/
lemma isOver_start {count : Nat} (hpos : 0 < count) : (start method count).isOver = false := by
  obtain ⟨n, rfl⟩ := Nat.exists_eq_succ_of_ne_zero hpos.ne'
  rfl

end Cycle

namespace Manager

variable {m : Manager σ} {f f' : Foreground} {x : Stride σ} {made : List (Stride σ)}

/-- A manager whose owner waits for a cycle that began in a world, and goes on as soon as its last
step is made. What the owner has done so far are the steps of the cycle. -/
def Sweeps (setup : Setup σ) (method : String) (w₀ : World σ) (made : List (Stride σ))
    (m : Manager σ) (f : Foreground) : Prop :=
  m.setup = setup ∧ ∃ c stages, f = .cycle c ∧
    (Cycle.routine setup).Course w₀ (.start method setup.registry.size) stages m.world c ∧
    List.Forall₂ Stage.MadeBy stages (made.filter (·.actor = .owner)) ∧
    (c.isOver = true → stages.getLast?.map (·.before.now) = some m.world.now)

/-- The number of steps that an activity has before it if it is a cycle. -/
def cycleSteps : Foreground → Nat
  | .cycle c => c.stepsLeft
  | _ => 0

/-- Whatever is done, the cycle stays in its course. -/
lemma Sweeps.makes (h : Sweeps setup method w₀ made m f)
    (hover : f.isOver m.world.now m.prober = false) (hmakes : m.Makes f x f') :
    Sweeps setup method w₀ (made ++ [x]) x.after f' := by
  obtain ⟨rfl, c, stages, rfl, hcourse, hmade, -⟩ := h
  have hgoes : c.isOver ≠ true := by
    rw [show c.isOver = false from hover]
    exact Bool.false_ne_true
  cases hmakes with
  | owner hstep =>
    obtain ⟨⟨next, c', notes⟩, hcycle, heq⟩ := Option.map_eq_some_iff.mp hstep
    cases heq
    refine ⟨rfl, c', _, rfl, hcourse.step hcycle, ?_, fun _ => ?_⟩
    · rw [List.filter_append]
      exact List.rel_append hmade (.cons ⟨rfl, rfl, rfl, rfl⟩ .nil)
    · rw [List.getLast?_concat, Option.map_some]
      exact congrArg some ((Cycle.orderly_routine m.setup).now hcycle).symm
  | prober hp hstep =>
    refine ⟨rfl, c, stages, rfl,
      hcourse.beside (Prober.exists_log_of_step? hstep) (Prober.now_of_step? hstep), ?_,
      fun h => absurd h hgoes⟩
    simpa using hmade
  | @clock t _ hmoment hlater =>
    refine ⟨rfl, c, stages, rfl, hcourse.wait hlater.le ?_, by simpa using hmade,
      fun h => absurd h hgoes⟩
    intro u hu
    have hwakes : (Foreground.cycle c).wakesAt? m.world.now = some u := hu
    rw [nextMoment?, hwakes] at hmoment
    exact le_left_of_earliest? hmoment

/-- A cycle that the owner waits for will be over with the longest deadline. -/
lemma bounded_sweeps (setup : Setup σ) (method : String) (w₀ : World σ) :
    Bounded (Sweeps setup method w₀) cycleSteps
      (w₀.now + (setup.registry.endpoints.map (·.timeout.timerMillis)).sum) where
  makes := fun h hover hmakes => h.makes hover hmakes
  rank_lt := by
    rintro made m f world f' notes ⟨rfl, c, stages, rfl, -, -⟩ hstep
    obtain ⟨⟨next, c', notes'⟩, hcycle, heq⟩ := Option.map_eq_some_iff.mp hstep
    cases heq
    obtain ⟨i, -, hat⟩ := Option.bind_eq_some_iff.mp hcycle
    exact Cycle.stepsLeft_of_stepAt? hat
  wakes := by
    rintro made m f ⟨rfl, c, stages, rfl, hcourse, -⟩ hover
    obtain ⟨t, ht, ⟨e, he, hle⟩, hstep⟩ := (Cycle.kept_of_course hcourse).goes_on hover
    have hmem := List.mem_map_of_mem (f := fun e : Endpoint => e.timeout.timerMillis) he
    refine ⟨t, ht, hle.trans ?_, ?_⟩
    · exact Nat.add_le_add_left (List.single_le_sum (fun _ _ => Nat.zero_le _) _ hmem) _
    · intro hdue
      obtain ⟨out, hout⟩ := Option.isSome_iff_exists.mp (hstep m.world hdue)
      simp [Foreground.step?, hout]

/-- **Every endpoint is probed once in a cycle.** Whatever the breakers and records say, and
whatever others do meanwhile, a cycle sends one request to each endpoint when it begins, in registry
order, and makes one observation of each: when its answer arrives or its deadline is over, a success
if this is a value other than null in time and a failure in every other case. It counts no requests.
A cycle that the owner of a manager waits for comes to its end, with the last observation. -/
theorem every_endpoint_is_probed_once {m : Manager σ} (method : String)
    (htransport : m.setup.transport.Faultless)
    (hclock : ∀ e ∈ m.setup.registry.endpoints,
      (m.setup.clock.afterMillis (m.world.now + e.timeout.timerMillis)).instant.nanos +
        m.world.tracker.breakers.timeout.nanos < Instant.limit) :
    (∀ stages w c,
      (Cycle.routine m.setup).Course m.world (.start method m.setup.registry.size) stages w c →
      Cycle.CourseLaw m.setup method m.world stages w c) ∧
    (m.Ticks → ∃ enough, ∀ fuel ≥ enough, ∃ c stages answer,
      let cycle := Foreground.cycle (.start method m.setup.registry.size)
      let out := m.drive fuel cycle []
      out.2.1 = .cycle c ∧ c.isOver = true ∧ c.fault? = none ∧
        (Cycle.routine m.setup).Course m.world (.start method m.setup.registry.size) stages
          out.1.world c ∧
        List.Forall₂ Stage.MadeBy stages ((m.strides fuel cycle).filter (·.actor = .owner)) ∧
        Cycle.Swept m.setup method m.world.now stages answer ∧
        (m.setup.registry.endpoints.mapIdx fun i e =>
          m.world.now + (answer i).span e.timeout).max? = some out.1.world.now) := by
  have hlaw : ∀ stages w c,
      (Cycle.routine m.setup).Course m.world (.start method m.setup.registry.size) stages w c →
        Cycle.CourseLaw m.setup method m.world stages w c :=
    fun stages w c hcourse => Cycle.law_of_course hcourse htransport hclock
  refine ⟨hlaw, ?_⟩
  intro hticks
  have hbegins : Sweeps m.setup method m.world [] m
      (.cycle (.start method m.setup.registry.size)) := by
    refine ⟨rfl, _, [], rfl, .begin, .nil, fun hover => ?_⟩
    rw [Cycle.isOver_start m.setup.registry.size_pos] at hover
    cases hover
  obtain ⟨enough, henough⟩ := (bounded_sweeps m.setup method m.world).exists_isOver_drive hbegins
    hticks (Nat.le_add_right _ _)
  refine ⟨enough, fun fuel hfuel => ?_⟩
  obtain ⟨hover, -, c, stages, hf, hcourse, hmade, hnow⟩ := henough fuel hfuel
  rw [hf] at hover
  obtain ⟨answer, hswept⟩ := (hlaw stages _ c hcourse).swept hover
  obtain ⟨last, hlast, hmax⟩ := hswept.ends
  refine ⟨c, stages, answer, hf, hover, (hlaw stages _ c hcourse).unfaulted, hcourse, hmade, hswept,
    ?_⟩
  have hend := hnow hover
  rw [hlast, Option.map_some] at hend
  rw [hmax, Option.some.inj hend]

/-- Two endpoints of one URL, of which the first answers null after three milliseconds and the
second never: the cycle sends two requests at once and is over with the deadline, and both endpoints
have failed. -/
theorem every_endpoint_is_probed_once_of_one_url :
    let mute : Rpc.Transport Nat :=
      ⟨fun n _ _ => (if n = 0 then ⟨3, .result (.ok .null)⟩ else ⟨0, .silence⟩, n + 1)⟩
    let registry : Registry :=
      ⟨[.ofUrl "http://a", .ofUrl "http://a"].map Endpoint.ofConfig, by simp, by decide⟩
    let m := fresh registry Settings.standard mute 0 .standard fun _ => 0
    let out := m.drive 7 (.cycle (.start "ping" 2)) []
    (∃ enough, ∀ fuel ≥ enough, ∃ c stages answer,
      (m.drive fuel (.cycle (.start "ping" 2)) []).2.1 = .cycle c ∧ c.fault? = none ∧
        Cycle.Swept m.setup "ping" 0 stages answer) ∧
      out.2.1.isOver out.1.world.now out.1.prober = true ∧ out.1.world.now = 30000 ∧
      (Journal.sendings out.2.2).map (fun sending => (sending.time, sending.url)) =
        [(0, "http://a"), (0, "http://a")] ∧
      (out.1.world.tracker.records.map (·.consecutiveFailures)) = [1, 1] := by
  intro mute registry m out
  have hfaultless : m.setup.transport.Faultless := by
    intro n endpoint request f
    show (if n = 0 then (⟨3, .result (.ok .null)⟩ : Rpc.Answer) else ⟨0, .silence⟩).reply ≠ .fault f
    split <;> simp
  obtain ⟨-, hends⟩ := every_endpoint_is_probed_once (m := m) "ping" hfaultless (by decide)
  refine ⟨?_, by decide, by decide, by decide, by decide⟩
  obtain ⟨enough, henough⟩ := hends nofun
  refine ⟨enough, fun fuel hfuel => ?_⟩
  obtain ⟨c, stages, answer, hf, -, hfault, -, -, hswept, -⟩ := henough fuel hfuel
  exact ⟨c, stages, answer, hf, hfault, hswept⟩

/-- Breakers that stay open for longer than the clock can show: of two endpoints of which the first
fails at once and the second would answer, the second gets no probe, and the cycle ends in a fault
although the transport has none. -/
theorem overlong_breaker_breaks_cycle_off :
    let answering : Rpc.Transport Unit := ⟨fun _ e _ =>
      (⟨0, .result (if e.url = "http://a" then .error .emptyResult else .ok (.bool true))⟩, ())⟩
    let registry : Registry :=
      ⟨[.ofUrl "http://a", .ofUrl "http://b"].map Endpoint.ofConfig, by simp, by decide⟩
    let settings : Settings :=
      { Settings.standard with breakerThreshold := 1, breakerTimeout := .longest }
    let m := fresh registry settings answering () .standard fun _ => 0
    m.setup.transport.Faultless ∧
      m.checkHealth.1 = some .clockOverflow ∧
      (Journal.sendings m.checkHealth.2.2).map Sending.url = ["http://a"] ∧
      (m.checkHealth.2.1.world.tracker.recordAt 0).status = .unhealthy ∧
      m.checkHealth.2.1.world.tracker.recordAt 1 = .initial := by
  intro answering registry settings m
  have hfaultless : m.setup.transport.Faultless := by
    intro wire endpoint request f
    exact nofun
  exact ⟨hfaultless, by decide, by decide, by decide, by decide⟩

end Manager

end Failover
