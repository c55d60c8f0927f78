import Failover.Proofs.Manager.Completion
import Failover.Proofs.Traffic.Timing

/-!
# When calls end

The calls that the owner of a manager waits for run side by side and next to the background prober.
To each of them all the others are what goes on between its steps, so it takes one of the courses
that a call can take. Nobody makes it wait, since the clock stops at the next moment at which one of
them goes on. So all of them come to their end, each with the last of its own visits.
-/

namespace Failover

open Visit (total)

variable {σ : Type} {setup : Setup σ} {w v : World σ} {request : Rpc.Request} {startsAt : Nat}
  {made : List (Stride σ)}

/-! ## Tasks -/

namespace CallTask

variable {task : CallTask} {out : World σ × CallTask × Journal}

/-- The number of steps that a task has before it at most. -/
def stepsLeft (setup : Setup σ) : CallTask → Nat
  | .delayed .. => Call.stepsFrom setup 0 + 1
  | .active c => c.stepsLeft setup
  | .finished .. => 0

/-- A task of a request that is to be called at a time: it still waits for this time, or the call
has gone through some stages, which the owner has made, and is over when its visits are. -/
def Serves (setup : Setup σ) (made : List (Stride σ)) (w : World σ) (startsAt : Nat)
    (request : Rpc.Request) (task : CallTask) : Prop :=
  (task = .delayed startsAt request ∧ w.now ≤ startsAt) ∨
    ∃ w₀ stages c, w₀.now = startsAt ∧
      (Call.routine setup).Course w₀ (.start request w₀.now) stages w c ∧
      (∀ x ∈ stages, ∃ y ∈ made, x.MadeBy y) ∧
      task = ofCall c (w₀.now + total setup request (Call.visits setup stages))

/-- A task wakes when its call does. -/
lemma wakesAt?_ofCall (c : Call) (endsAt now : Nat) :
    (ofCall c endsAt).wakesAt? now = c.wakesAt? now := by
  unfold ofCall
  cases hresult : c.result? with
  | none => rfl
  | some r => simp [wakesAt?, Call.wakesAt?, Call.result?_eq_some_iff.mp hresult]

/-- Every step of a task is one of those that it had before it. -/
lemma stepsLeft_of_step? (hstep : task.step? setup w = some out) :
    out.2.1.stepsLeft setup < task.stepsLeft setup := by
  cases task with
  | delayed startsAt request =>
    rw [step?] at hstep
    split at hstep
    case isTrue =>
      cases hstep
      exact Nat.lt_succ_self _
    case isFalse => cases hstep
  | active c =>
    obtain ⟨⟨next, c', notes⟩, hcall, rfl⟩ := Option.map_eq_some_iff.mp hstep
    have hfewer : c'.stepsLeft setup < c.stepsLeft setup := Call.stepsLeft_of_step? hcall
    dsimp only [ofCall]
    split
    · exact Nat.zero_lt_of_lt hfewer
    · exact hfewer
  | finished r endedAt => cases hstep

/-- A step of a task takes no time and does to the tracker what can be asked of it. -/
lemma beside_of_step? (hstep : task.step? setup w = some out) :
    (∃ log, out.1.tracker = w.tracker.replay log) ∧ out.1.now = w.now := by
  cases task with
  | delayed startsAt request =>
    rw [step?] at hstep
    split at hstep
    case isTrue =>
      cases hstep
      exact ⟨⟨[], rfl⟩, rfl⟩
    case isFalse => cases hstep
  | active c =>
    obtain ⟨⟨next, c', notes⟩, hcall, rfl⟩ := Option.map_eq_some_iff.mp hstep
    exact ⟨(Call.orderly_routine setup).tracker hcall, (Call.orderly_routine setup).now hcall⟩
  | finished r endedAt => cases hstep

/-- If one of the tasks can go on, one of them does. -/
lemma isSome_stepFirst? {tasks : List CallTask} (hmem : task ∈ tasks)
    (hstep : (task.step? setup w).isSome) : (stepFirst? setup w tasks).isSome := by
  induction tasks with
  | nil => cases hmem
  | cons first rest ih =>
    unfold stepFirst?
    cases hfirst : first.step? setup w with
    | some out => rfl
    | none =>
      rw [Option.isSome_map]
      rcases List.mem_cons.mp hmem with rfl | hrest
      · rw [hfirst] at hstep
        cases hstep
      · exact ih hrest

namespace Serves

/-- A stride of anybody leaves a task that serves a request serving it. -/
lemma later (h : task.Serves setup made w startsAt request) (y : Stride σ) :
    task.Serves setup (made ++ [y]) w startsAt request := by
  refine h.imp_right ?_
  rintro ⟨w₀, stages, c, hstart, hcourse, hmade, htask⟩
  refine ⟨w₀, stages, c, hstart, hcourse, fun x hx => ?_, htask⟩
  obtain ⟨z, hz, hxz⟩ := hmade x hx
  exact ⟨z, List.mem_append_left _ hz, hxz⟩

/-- What others do at the same instant leaves a task serving its request. -/
lemma beside (h : task.Serves setup made w startsAt request)
    (htracker : ∃ log, v.tracker = w.tracker.replay log) (hnow : v.now = w.now) :
    task.Serves setup made v startsAt request := by
  rcases h with ⟨rfl, hle⟩ | ⟨w₀, stages, c, hstart, hcourse, htask⟩
  · exact Or.inl ⟨rfl, hnow.le.trans hle⟩
  · exact Or.inr ⟨w₀, stages, c, hstart, hcourse.beside htracker hnow, htask⟩

/-- Waiting no longer than to the next waking leaves a task serving its request. -/
lemma wait (h : task.Serves setup made w startsAt request) {t : Nat} (hlater : w.now ≤ t)
    (hwakes : ∀ u, task.wakesAt? w.now = some u → t ≤ u) :
    task.Serves setup made { w with now := t } startsAt request := by
  rcases h with ⟨rfl, hle⟩ | ⟨w₀, stages, c, hstart, hcourse, hmade, rfl⟩
  · exact Or.inl ⟨rfl, hwakes startsAt rfl⟩
  · refine Or.inr ⟨w₀, stages, c, hstart, hcourse.wait hlater ?_, hmade, rfl⟩
    intro u hu
    exact hwakes u ((wakesAt?_ofCall _ _ _).trans hu)

/-- A step of its own leaves a task serving its request. -/
lemma step (h : task.Serves setup made w startsAt request) (hstep : task.step? setup w = some out)
    (hmade : ∃ y ∈ made, y.actor = .owner ∧ y.before.world = w ∧ y.after.world = out.1 ∧
      y.notes = out.2.2) : out.2.1.Serves setup made out.1 startsAt request := by
  rcases h with ⟨rfl, hle⟩ | ⟨w₀, stages, c, hstart, hcourse, hstages, rfl⟩
  · rw [step?] at hstep
    split at hstep
    case isTrue hdue =>
      cases hstep
      exact Or.inr ⟨w, [], .start request w.now, hle.antisymm hdue, .begin,
        fun _ hx => absurd hx List.not_mem_nil, rfl⟩
    case isFalse => cases hstep
  · cases hresult : c.result? with
    | some r => simp [ofCall, hresult, step?] at hstep
    | none =>
      simp only [ofCall, hresult] at hstep
      obtain ⟨⟨next, c', notes⟩, hcall, rfl⟩ := Option.map_eq_some_iff.mp hstep
      dsimp only at hmade ⊢
      have hnext := hcourse.step hcall
      refine Or.inr ⟨w₀, _, c', hstart, hnext, ?_, ?_⟩
      · intro x hx
        rcases List.mem_append.mp hx with hx | hx
        · exact hstages x hx
        · obtain rfl := List.mem_singleton.mp hx
          exact hmade
      · unfold ofCall
        cases hr : c'.result? with
        | none => rfl
        | some r =>
          have hlast := ((Call.timeLaw_of_course hnext).ended (by rw [hr]; rfl)).2
          rw [List.getLast?_concat, Option.map_some] at hlast
          exact congrArg (CallTask.finished r) (Option.some.inj hlast)

/-- A task that has not finished goes on at some time. -/
lemma exists_wakesAt? (h : task.Serves setup made w startsAt request)
    (hresult : task.result? = none) : ∃ t, task.wakesAt? w.now = some t := by
  rcases h with ⟨rfl, -⟩ | ⟨w₀, stages, c, -, hcourse, -, rfl⟩
  · exact ⟨startsAt, rfl⟩
  · cases hr : c.result? with
    | some r => simp [ofCall, hr, result?] at hresult
    | none =>
      have hwakes := ((Call.timeLaw_of_course hcourse).goes_on hr).1
      exact ⟨_, (wakesAt?_ofCall _ _ _).trans hwakes⟩

/-- It does so before its visits can have taken too long. -/
lemma wakes_by (h : task.Serves setup made w startsAt request) {t : Nat}
    (ht : task.wakesAt? w.now = some t) :
    t ≤ startsAt + (setup.registry.endpoints.map setup.longestVisit).sum ∧
      (t ≤ w.now → (task.step? setup w).isSome) := by
  rcases h with ⟨rfl, -⟩ | ⟨w₀, stages, c, rfl, hcourse, -, rfl⟩
  · cases ht
    refine ⟨Nat.le_add_right _ _, fun hdue => ?_⟩
    simp [step?, hdue]
  · have hlaw := Call.timeLaw_of_course hcourse
    rw [wakesAt?_ofCall] at ht
    cases hr : c.result? with
    | some r => simp [Call.wakesAt?, Call.result?_eq_some_iff.mp hr] at ht
    | none =>
      obtain ⟨hwakes, hstep⟩ := hlaw.goes_on hr
      obtain rfl := Option.some.inj (hwakes.symm.trans ht)
      refine ⟨Nat.add_le_add_left hlaw.total_le _, fun hdue => ?_⟩
      simp only [ofCall, hr, step?, Option.isSome_map]
      exact hstep w hdue

end Serves

end CallTask

/-! ## Calls side by side -/

namespace Manager

variable {m : Manager σ} {f f' : Foreground} {x : Stride σ} {start : Nat}
  {batch : List (Nat × Rpc.Request)} {tasks : List CallTask}

/-- Tasks for the requests of a batch, each of which is to be called so long after a time. -/
def Serve (setup : Setup σ) (start : Nat) (batch : List (Nat × Rpc.Request))
    (made : List (Stride σ)) (w : World σ) (tasks : List CallTask) : Prop :=
  tasks.length = batch.length ∧ ∀ (i : Nat) r task, batch[i]? = some r → tasks[i]? = some task →
    task.Serves setup made w (start + r.1) r.2

/-- A manager whose owner waits for the calls of a batch. -/
def Waits (setup : Setup σ) (start : Nat) (batch : List (Nat × Rpc.Request))
    (made : List (Stride σ)) (m : Manager σ) (f : Foreground) : Prop :=
  m.setup = setup ∧ ∃ tasks, f = .calls tasks ∧ Serve setup start batch made m.world tasks

/-- The number of steps that an activity has before it if it consists of calls. -/
def callSteps (setup : Setup σ) : Foreground → Nat
  | .calls tasks => (tasks.map (CallTask.stepsLeft setup)).sum
  | _ => 0

/-- The time at which every call of a batch is over. -/
def allOver (setup : Setup σ) (start : Nat) (batch : List (Nat × Rpc.Request)) : Nat :=
  start + (batch.map Prod.fst).sum + (setup.registry.endpoints.map setup.longestVisit).sum

/-- Each task of a batch serves one of the requests, from the delay it was given on. -/
lemma Serve.exists_request (h : Serve setup start batch made w tasks) {task : CallTask}
    (hmem : task ∈ tasks) : ∃ r ∈ batch, task.Serves setup made w (start + r.1) r.2 := by
  obtain ⟨i, hi⟩ := List.mem_iff_getElem?.mp hmem
  have hlt : i < batch.length := h.1 ▸ (List.getElem?_eq_some_iff.mp hi).1
  exact ⟨batch[i], List.getElem_mem hlt, h.2 i _ task (List.getElem?_eq_getElem hlt) hi⟩

/-- The step of one task is no step of the others. -/
lemma Serve.step (h : Serve setup start batch made w tasks) {next : World σ}
    {tasks' : List CallTask} {notes : Journal}
    (hstep : CallTask.stepFirst? setup w tasks = some (next, tasks', notes))
    (hmade : ∃ y ∈ made, y.actor = .owner ∧ y.before.world = w ∧ y.after.world = next ∧
      y.notes = notes) : Serve setup start batch made next tasks' := by
  obtain ⟨k, task, task', hk, htask, rfl⟩ := CallTask.stepFirst?_eq_some hstep
  obtain ⟨htracker, hnow⟩ := CallTask.beside_of_step? htask
  refine ⟨by rw [List.length_set, h.1], ?_⟩
  intro i r other hr hother
  rcases eq_or_ne k i with rfl | hne
  · have hlt := (List.getElem?_eq_some_iff.mp hk).1
    rw [List.getElem?_set_self hlt] at hother
    cases hother
    exact (h.2 k r task hr hk).step htask hmade
  · rw [List.getElem?_set_ne hne] at hother
    exact (h.2 i r other hr hother).beside htracker hnow

/-- The next moment of a batch is no later than any of its tasks wakes. -/
lemma le_of_nextMoment? {t u : Nat} {task : CallTask} (hmem : task ∈ tasks)
    (ht : m.nextMoment? (.calls tasks) = some t) (hu : task.wakesAt? m.world.now = some u) :
    t ≤ u := by
  have hwakes : u ∈ tasks.filterMap (CallTask.wakesAt? m.world.now) :=
    List.mem_filterMap.mpr ⟨task, hmem, hu⟩
  rw [nextMoment?, Foreground.wakesAt?] at ht
  cases hmin : (tasks.filterMap (CallTask.wakesAt? m.world.now)).min? with
  | none =>
    rw [List.min?_eq_none_iff.mp hmin] at hwakes
    cases hwakes
  | some least =>
    rw [hmin] at ht
    exact (le_left_of_earliest? ht).trans ((List.min?_eq_some_iff.mp hmin).2 u hwakes)

/-- Whatever is done, the calls stay in their courses. -/
lemma Waits.makes (h : Waits setup start batch made m f) (hmakes : m.Makes f x f') :
    Waits setup start batch (made ++ [x]) x.after f' := by
  obtain ⟨rfl, tasks, rfl, hserve⟩ := h
  have hlater : Serve m.setup start batch (made ++ [x]) m.world tasks :=
    ⟨hserve.1, fun i r task hr htask => (hserve.2 i r task hr htask).later x⟩
  cases hmakes with
  | owner hstep =>
    obtain ⟨⟨next, tasks', notes⟩, hfirst, heq⟩ := Option.map_eq_some_iff.mp hstep
    cases heq
    refine ⟨rfl, tasks', rfl, hlater.step hfirst ⟨_, ?_, rfl, rfl, rfl, rfl⟩⟩
    exact List.mem_append_right _ (List.mem_singleton_self _)
  | prober hp hstep =>
    refine ⟨rfl, tasks, rfl, hlater.1, fun i r task hr htask => ?_⟩
    exact (hlater.2 i r task hr htask).beside (Prober.exists_log_of_step? hstep)
      (Prober.now_of_step? hstep)
  | @clock t _ hmoment hle =>
    refine ⟨rfl, tasks, rfl, hlater.1, fun i r task hr htask => ?_⟩
    refine (hlater.2 i r task hr htask).wait hle.le fun u hu => ?_
    exact le_of_nextMoment? (List.mem_of_getElem? htask) hmoment hu

/-- The calls that the owner waits for will all be over. -/
lemma bounded_waits (setup : Setup σ) (start : Nat) (batch : List (Nat × Rpc.Request)) :
    Bounded (Waits setup start batch) (callSteps setup) (allOver setup start batch) where
  makes := fun h _ hmakes => h.makes hmakes
  rank_lt := by
    rintro made m f world f' notes ⟨rfl, tasks, rfl, -⟩ hstep
    obtain ⟨⟨next, tasks', notes'⟩, hfirst, heq⟩ := Option.map_eq_some_iff.mp hstep
    cases heq
    obtain ⟨k, task, task', hk, htask, rfl⟩ := CallTask.stepFirst?_eq_some hfirst
    have hfewer : task'.stepsLeft m.setup < task.stepsLeft m.setup :=
      CallTask.stepsLeft_of_step? htask
    have hsum := sum_map_set (CallTask.stepsLeft m.setup) hk task'
    dsimp only [callSteps]
    omega
  wakes := by
    rintro made m f ⟨rfl, tasks, rfl, hserve⟩ hover
    obtain ⟨task, htask, hresult⟩ := List.all_eq_false.mp hover
    obtain ⟨r, -, hserves⟩ := hserve.exists_request htask
    obtain ⟨t, ht⟩ := hserves.exists_wakesAt? (by simpa using hresult)
    have hwakes : t ∈ tasks.filterMap (CallTask.wakesAt? m.world.now) :=
      List.mem_filterMap.mpr ⟨task, htask, ht⟩
    obtain ⟨least, hleast⟩ := Option.isSome_iff_exists.mp (List.isSome_min?_of_mem hwakes)
    obtain ⟨first, hfirst, hfirstWakes⟩ := List.mem_filterMap.mp (List.min?_mem hleast)
    obtain ⟨r, hr, hserves⟩ := hserve.exists_request hfirst
    obtain ⟨hle, hdue⟩ := hserves.wakes_by hfirstWakes
    have hdelay := List.single_le_sum (fun _ _ => Nat.zero_le _) r.1
      (List.mem_map_of_mem (f := Prod.fst) hr)
    refine ⟨least, hleast, ?_, fun hnow => ?_⟩
    · unfold allOver
      omega
    · rw [Foreground.step?, Option.isSome_map]
      exact CallTask.isSome_stepFirst? hfirst (hdue hnow)

/-- At its start every task of a batch waits for its delay. -/
lemma serve_delayed (setup : Setup σ) (batch : List (Nat × Rpc.Request)) (w : World σ) :
    Serve setup w.now batch [] w (batch.map fun r => .delayed (w.now + r.1) r.2) := by
  refine ⟨List.length_map _, ?_⟩
  intro i r task hr htask
  rw [List.getElem?_map, hr, Option.map_some] at htask
  exact Or.inl ⟨(Option.some.inj htask).symm, Nat.le_add_right _ _⟩

/-- **A call takes exactly the time of its visits.** Whatever others do meanwhile, an attempt ends
with the answer to its request or with its deadline, a visit takes its attempts and the pauses
between them, and a call takes its visits, of which each goes to another endpoint and makes no more
attempts than this gets. The calls that the owner of a manager waits for all come to their end, each
at the time at which it began plus what its own visits take, even if no request is ever answered. -/
theorem calls_take_the_time_of_their_visits {m : Manager σ} (hticks : m.Ticks)
    (batch : List (Nat × Rpc.Request)) :
    (∀ request w₀ stages w c,
      (Call.routine m.setup).Course w₀ (.start request w₀.now) stages w c →
      Call.TimeLaw m.setup request w₀ stages w c) ∧
    ∃ enough, ∀ fuel ≥ enough, ∃ tasks,
      let calls := Foreground.calls (batch.map fun r => .delayed (m.world.now + r.1) r.2)
      let out := m.drive fuel calls []
      out.2.1 = .calls tasks ∧ tasks.length = batch.length ∧
        ∀ (i : Nat) delay request, batch[i]? = some (delay, request) →
          ∃ w₀ stages c result, w₀.now = m.world.now + delay ∧
            (Call.routine m.setup).Course w₀ (.start request w₀.now) stages out.1.world c ∧
            (∀ x ∈ stages, ∃ y ∈ m.strides fuel calls, x.MadeBy y) ∧ c.result? = some result ∧
            tasks[i]? = some (.finished result
              (w₀.now + total m.setup request (Call.visits m.setup stages))) := by
  refine ⟨fun _ _ _ _ _ hcourse => Call.timeLaw_of_course hcourse, ?_⟩
  have hwaits : Waits m.setup m.world.now batch [] m
      (.calls (batch.map fun r => .delayed (m.world.now + r.1) r.2)) :=
    ⟨rfl, _, rfl, serve_delayed m.setup batch m.world⟩
  have hnow : m.world.now ≤ allOver m.setup m.world.now batch := by
    unfold allOver
    omega
  obtain ⟨enough, henough⟩ := (bounded_waits m.setup m.world.now batch).exists_isOver_drive hwaits
    hticks hnow
  refine ⟨enough, fun fuel hfuel => ?_⟩
  obtain ⟨hover, -, tasks, hf, hserve⟩ := henough fuel hfuel
  rw [hf] at hover
  refine ⟨tasks, hf, hserve.1, ?_⟩
  intro i delay request hrequest
  have hlt : i < tasks.length := hserve.1 ▸ (List.getElem?_eq_some_iff.mp hrequest).1
  have htask := List.getElem?_eq_getElem hlt
  have hresult := List.all_eq_true.mp hover tasks[i] (List.getElem_mem hlt)
  rcases hserve.2 i _ _ hrequest htask with
    ⟨hdelayed, -⟩ | ⟨w₀, stages, c, hstart, hcourse, hmade, hcall⟩
  · rw [hdelayed] at hresult
    cases hresult
  · cases hr : c.result? with
    | none => simp [hcall, CallTask.ofCall, hr, CallTask.result?] at hresult
    | some result =>
      refine ⟨w₀, stages, c, result, hstart, hcourse, hmade, hr, ?_⟩
      rw [htask, hcall, CallTask.ofCall, hr]

/-- Two calls, of which the second begins five milliseconds later, while the prober runs: the first
of two endpoints never answers, and the second one does after three milliseconds. Each call spends
two deadlines and a pause on the first endpoint. -/
theorem calls_take_the_time_of_their_visits_at_a_hung_endpoint :
    let hung : Rpc.Transport Unit :=
      ⟨fun _ e _ => (if e.url = "http://a" then ⟨0, .silence⟩ else ⟨3, .result (.ok .null)⟩, ())⟩
    let registry : Registry :=
      ⟨[.ofUrl "http://a", .ofUrl "http://b"].map Endpoint.ofConfig, by simp, by decide⟩
    let settings : Settings := { Settings.standard with maxRetries := 2 }
    let m := (fresh registry settings hung () .standard fun _ => 0).start.1
    let batch : List (Nat × Rpc.Request) := [(0, ⟨"ping", []⟩), (5, ⟨"ping", []⟩)]
    let calls := Foreground.calls (batch.map fun r => .delayed (m.world.now + r.1) r.2)
    m.Ticks ∧
      (∃ enough, ∀ fuel ≥ enough, ∃ tasks, (m.drive fuel calls []).2.1 = .calls tasks ∧
        ∃ w₀ stages c result, w₀.now = 5 ∧
          (Call.routine m.setup).Course w₀ (.start ⟨"ping", []⟩ 5) stages
            (m.drive fuel calls []).1.world c ∧
          tasks[1]? = some (.finished result
            (5 + total m.setup ⟨"ping", []⟩ (Call.visits m.setup stages)))) ∧
      (m.drive 60 calls []).2.1.results.map Prod.snd =
        [2 * 30000 + 1000 + 3, 5 + 2 * 30000 + 1000 + 3] := by
  intro hung registry settings m batch calls
  have hticks : m.Ticks := ticks_start nofun
  obtain ⟨-, enough, henough⟩ := calls_take_the_time_of_their_visits hticks batch
  refine ⟨hticks, ⟨enough, fun fuel hfuel => ?_⟩, by decide⟩
  obtain ⟨tasks, hf, -, hall⟩ := henough fuel hfuel
  obtain ⟨w₀, stages, c, result, hstart, hcourse, -, -, htask⟩ := hall 1 5 ⟨"ping", []⟩ rfl
  have hfive : w₀.now = 5 := hstart
  rw [hfive] at hcourse htask
  exact ⟨tasks, hf, w₀, stages, c, result, hfive, hcourse, htask⟩

end Manager

end Failover
