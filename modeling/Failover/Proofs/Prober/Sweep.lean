import Failover.Proofs.Prober.Turns
import Failover.Proofs.Retry.Deadline
import Failover.Proofs.Tracker.Expiry
import Failover.Proofs.Traffic.Course
import Failover.Proofs.Traffic.Walk

/-!
# What a probe cycle observes

A cycle shares its world, but nothing that others do takes anything from it: every endpoint gets one
probe when the cycle begins, and what the probe finds is reported once, when its answer arrives or
its deadline is over (`Cycle.Swept`). Only a fault keeps it from that, and without faults of the
transport there is none as long as the clock can show the ends of breakers
(`Cycle.fault?_eq_none_of_course`).
-/

namespace Failover

variable {σ : Type} {setup : Setup σ}

/-- Whether an answer brings a value other than null in time. -/
def Rpc.Answer.isGood (deadline : Duration) (a : Answer) : Bool :=
  match a.reply with
  | .result (.ok .null) => false
  | .result (.ok _) => a.latency ≤ deadline.timerMillis
  | _ => false

/-- A failure is taken in without a fault if the clock can show the end of the breaker that it may
open. -/
lemma Tracker.fault?_failure_eq_none {t : Tracker} {time : Reading}
    (hclock : time.instant.nanos + t.breakers.timeout.nanos < Instant.limit) (index : Nat)
    (endpoint : Endpoint) (observer : Observer) :
    t.fault? ⟨time, .failure index endpoint observer⟩ = none := by
  cases hr : t.record? index with
  | none => rw [fault?, answer, perform_of_record?_eq_none rfl hr]
  | some r =>
    have hend : time.instant.after? t.breakers.timeout ≠ none := by
      rw [Ne, Instant.after?_eq_none_iff]
      omega
    rw [fault?_failure hr, if_neg fun h => hend h.2]

/-- What a probe observes leaves the numbers of requests alone. -/
lemma Tracker.requests_replay {log : Log}
    (hlog : ∀ e ∈ log, ∀ i o, e.observed? = some (i, o) → o.observer = .probe) (t : Tracker)
    (index : Nat) :
    ((t.replay log).recordAt index).totalRequests = (t.recordAt index).totalRequests ∧
      ((t.replay log).recordAt index).successfulRequests =
        (t.recordAt index).successfulRequests := by
  induction log generalizing t with
  | nil => exact ⟨rfl, rfl⟩
  | cons e log ih =>
    have hobserve : ∀ r : HealthRecord, ∀ o : Observation, o.observer = .probe →
        (r.observe t.threshold o).totalRequests = r.totalRequests ∧
          (r.observe t.threshold o).successfulRequests = r.successfulRequests := by
      rintro r ⟨observer, wall, latency?⟩ rfl
      cases latency? <;> exact ⟨rfl, rfl⟩
    have hone : ((t.after e).recordAt index).totalRequests = (t.recordAt index).totalRequests ∧
        ((t.after e).recordAt index).successfulRequests =
          (t.recordAt index).successfulRequests := by
      unfold recordAt record?
      rw [records_after]
      cases ho : e.observed? with
      | none => exact ⟨rfl, rfl⟩
      | some p =>
        have hprobe := hlog e List.mem_cons_self p.1 p.2 ho
        dsimp only
        rw [List.getElem?_modify]
        cases t.records[index]? with
        | none => exact ⟨rfl, rfl⟩
        | some r =>
          by_cases hindex : p.1 = index
          · simpa [hindex] using hobserve r p.2 hprobe
          · simp [hindex]
    have hrest := fun e' he' => hlog e' (List.mem_cons_of_mem _ he')
    obtain ⟨htotal, hsuccessful⟩ := ih hrest (t.after e)
    rw [replay_cons]
    exact ⟨htotal.trans hone.1, hsuccessful.trans hone.2⟩

namespace Cycle

/-- The turns that the steps of a cycle are. -/
def turnsOf (setup : Setup σ) (stages : List (Stage σ Cycle)) : List Turn :=
  stages.filterMap fun x => x.task.turn? setup x.before

/-- What a turn makes the tracker take in, and when. -/
def Turn.entries (setup : Setup σ) (x : Turn) : Tracker.Log :=
  (x.deeds setup.registry).map (⟨setup.clock.afterMillis x.time, ·⟩)

/-- What a cycle that began at a time has the tracker take in of an endpoint that gives an answer:
a success if this is a value other than null in time, and a failure in every other case. -/
def entry (setup : Setup σ) (start index : Nat) (endpoint : Endpoint) (a : Rpc.Answer) :
    Tracker.Entry where
  time := setup.clock.afterMillis (start + a.span endpoint.timeout)
  deed :=
    if a.isGood endpoint.timeout then
      .success index endpoint (Duration.ofMillis (a.span endpoint.timeout)) .probe
    else .failure index endpoint .probe

/-- What a cycle has done that began at a time and has come to its end without a fault, by the
answers to its probes. -/
structure Swept (setup : Setup σ) (method : String) (start : Nat) (stages : List (Stage σ Cycle))
    (answer : Nat → Rpc.Answer) : Prop where
  /-- The transport was asked for the answers when the probes set out. -/
  answered : ∀ i endpoint, setup.registry.get? i = some endpoint →
    ∃ x ∈ stages, ∃ a, x.task.turn? setup x.before = some (.setOut start i a) ∧
      answer i = (setup.transport.send x.before.wire endpoint ⟨method, []⟩).1
  /-- Every endpoint is sent one request when the cycle begins, in registry order. -/
  sendings : Journal.sendings (stages.flatMap Stage.notes) =
    setup.registry.endpoints.map fun e => ⟨start, e.url, ⟨method, []⟩⟩
  /-- One observation is made of each endpoint, as its answer says. -/
  entries : ((turnsOf setup stages).flatMap (Turn.entries setup)).Perm
    (setup.registry.endpoints.mapIdx fun i e => entry setup start i e (answer i))
  /-- The cycle is over with the last of them. -/
  ends : ∃ last, stages.getLast? = some last ∧
    (setup.registry.endpoints.mapIdx fun i e => start + (answer i).span e.timeout).max? =
      some last.before.now

/-- A step of a cycle is a turn. -/
def Turns (setup : Setup σ) (method : String) (x : Stage σ Cycle) : Prop :=
  ∃ turn, x.task.turn? setup x.before = some turn ∧
    turn.Taken setup ⟨method, []⟩ x.before x.after x.notes

/-- What a cycle that began at a time is like after some steps. -/
structure Kept (setup : Setup σ) (method : String) (start : Nat) (stages : List (Stage σ Cycle))
    (w : World σ) (c : Cycle) : Prop where
  asks : c.method = method
  taken : ∀ x ∈ stages, Turns setup method x
  phase : (∃ answers probes, c.phase = .running probes ∧
      Midway setup.registry.size start answers (turnsOf setup stages) probes w.now) ∨
    ∃ answers culprit f, c.phase = .faulted f ∧
      Ran setup.registry.size start answers (some culprit) (some f) (turnsOf setup stages)

variable {method : String} {w₀ w v : World σ} {c c₀ : Cycle} {stages : List (Stage σ Cycle)}
  {start size now : Nat} {answers : List Rpc.Settled} {turns : List Turn}
  {probes : List ProbePhase}

/-- A cycle that has just begun is kept. -/
lemma kept_start (setup : Setup σ) (method : String) (w : World σ) :
    Kept setup method w.now [] w (.start method setup.registry.size) where
  asks := rfl
  taken := nofun
  phase := Or.inl ⟨_, _, rfl, midway_start _ _⟩

/-- The probes of a cycle in its midst do not oversleep. -/
lemma Midway.le_wakesAt? (h : Midway size start answers turns probes now)
    (hphase : c.phase = .running probes) {t : Nat} (ht : c.wakesAt? now = some t) : now ≤ t := by
  rw [wakesAt?, hphase] at ht
  obtain ⟨probe, hprobe, hwakes⟩ := List.mem_filterMap.mp (List.min?_mem ht)
  obtain ⟨i, hi⟩ := List.mem_iff_getElem?.mp hprobe
  rcases h.phase_cases hi with ⟨-, rfl⟩ | ⟨a, ha, rfl | rfl⟩
  · exact (Option.some.inj hwakes).le
  · cases hwakes
    exact (h.waiting i a ha hi).1
  · cases hwakes

/-- A cycle that has been ended by a fault makes no more steps. -/
lemma step?_of_faulted {f : Fault} (hphase : c.phase = .faulted f) : c.step? setup w = none := by
  rw [step?, dueIndex?, hphase, Option.bind_none]

namespace Kept

/-- What others do until the next waking of a cycle leaves it kept. -/
lemma meanwhile (h : Kept setup method start stages w c) (hlater : w.now ≤ v.now)
    (hwakes : ∀ t, c.wakesAt? w.now = some t → v.now ≤ max w.now t) :
    Kept setup method start stages v c where
  asks := h.asks
  taken := h.taken
  phase := by
    refine h.phase.imp_left ?_
    rintro ⟨answers, probes, hphase, hmidway⟩
    refine ⟨answers, probes, hphase, hmidway.later hlater hphase ?_⟩
    intro t ht
    have hle := hmidway.le_wakesAt? hphase ht
    have hmax := hwakes t ht
    rwa [Nat.max_eq_right hle] at hmax

/-- A step of its own leaves a cycle kept. -/
lemma step (h : Kept setup method start stages w c) {next : World σ} {c' : Cycle}
    {notes : Journal} (hstep : c.step? setup w = some (next, c', notes)) :
    Kept setup method start (stages ++ [⟨w, c, next, c', notes⟩]) next c' := by
  obtain ⟨i, -, hat⟩ := Option.bind_eq_some_iff.mp hstep
  have hnow : next.now = w.now := now_of_stepAt? hat
  rcases h.phase with ⟨answers, probes, hphase, hmidway⟩ | ⟨-, -, f, hphase, -⟩
  · obtain ⟨turn, hturn, htaken, hafter⟩ := hmidway.step hphase hstep
    have hturns : turnsOf setup (stages ++ [⟨w, c, next, c', notes⟩]) =
        turnsOf setup stages ++ [turn] := by
      simp [turnsOf, hturn]
    rw [request, h.asks] at htaken
    refine ⟨(method_of_stepAt? hat).trans h.asks, ?_, ?_⟩
    · intro x hx
      rcases List.mem_append.mp hx with hx | hx
      · exact h.taken x hx
      · obtain rfl := List.mem_singleton.mp hx
        exact ⟨turn, hturn, htaken⟩
    · rw [hturns, hnow]
      rcases hafter with ⟨answers', probes', hphase', hmidway'⟩ | ⟨f, hphase', hran⟩
      · exact Or.inl ⟨answers', probes', hphase', hmidway'⟩
      · exact Or.inr ⟨answers, _, f, hphase', hran⟩
  · rw [step?_of_faulted hphase] at hstep
    cases hstep

/-- A cycle that is over without a fault has taken all of its turns. -/
lemma ran (h : Kept setup method start stages w c) (hover : c.isOver = true)
    (hfault : c.fault? = none) : ∃ answers,
      Ran setup.registry.size start answers none none (turnsOf setup stages) := by
  rcases h.phase with ⟨answers, probes, hphase, hmidway⟩ | ⟨-, -, f, hphase, -⟩
  · refine ⟨answers, hmidway.ran ?_⟩
    intro probe hprobe
    rw [isOver, hphase] at hover
    have hdone := List.all_eq_true.mp hover probe hprobe
    cases probe with
    | unsent => cases hdone
    | waiting since settled => cases hdone
    | done => rfl
  · rw [fault?, hphase] at hfault
    cases hfault

end Kept

/-- Whatever others do, a cycle takes its turns. -/
theorem kept_of_course
    (h : (routine setup).Course w₀ (.start method setup.registry.size) stages w c) :
    Kept setup method w₀.now stages w c := by
  induction h with
  | begin => exact kept_start setup method w₀
  | step _ hstep ih => exact ih.step hstep
  | meanwhile _ _ _ hlater hwakes ih => exact ih.meanwhile hlater hwakes

/-! ## What turns add up to -/

/-- What yields nothing may be filtered out. -/
lemma flatMap_filter_eq {α β : Type} {p : α → Bool} {g : α → List β} (xs : List α)
    (hg : ∀ x, p x = false → g x = []) : (xs.filter p).flatMap g = xs.flatMap g := by
  induction xs with
  | nil => rfl
  | cons x xs ih =>
    cases hp : p x with
    | true => rw [List.filter_cons_of_pos hp, List.flatMap_cons, List.flatMap_cons, ih]
    | false =>
      rw [List.filter_cons_of_neg (by simp [hp]), List.flatMap_cons, hg x hp, List.nil_append, ih]

/-- Elements that yield one each are mapped. -/
lemma flatMap_mapIdx_eq {α β γ : Type} {f : Nat → α → β} {g : β → List γ} {h : Nat → α → γ}
    {as : List α} (hg : ∀ i a, as[i]? = some a → g (f i a) = [h i a]) :
    (as.mapIdx f).flatMap g = as.mapIdx h := by
  induction as using List.reverseRecOn with
  | nil => rfl
  | append_singleton as a ih =>
    have hlast := hg as.length a (by simp)
    have hrest : (as.mapIdx f).flatMap g = as.mapIdx h := by
      refine ih fun i b hb => hg i b ?_
      rw [List.getElem?_append_left (List.getElem?_eq_some_iff.mp hb).1, hb]
    rw [List.mapIdx_concat, List.mapIdx_concat, List.flatMap_append, hrest,
      List.flatMap_singleton, hlast]

/-- The turns in which ends are taken in, up to their order. -/
lemma Ran.perm_arrivals (h : Ran size start answers none none turns) :
    (arrivals turns).Perm (answers.mapIdx (Turn.arrive start)) := by
  refine (List.perm_ext_iff_of_nodup ?_ ?_).mpr ?_
  · refine h.ordered.imp ?_
    rintro x y hbefore rfl
    unfold Turn.Before at hbefore
    omega
  · refine List.pairwise_iff_getElem.mpr ?_
    intro i j hi hj hlt heq
    rw [List.getElem_mapIdx, List.getElem_mapIdx] at heq
    have hindex : i = j := congrArg Turn.index heq
    omega
  · intro x
    rw [h.arrived, List.mem_mapIdx]
    constructor
    · rintro ⟨i, a, ha, rfl, -⟩
      obtain ⟨hlt, rfl⟩ := List.getElem?_eq_some_iff.mp ha
      exact ⟨i, hlt, rfl⟩
    · rintro ⟨i, hlt, rfl⟩
      exact ⟨i, _, List.getElem?_eq_getElem hlt, rfl, nofun⟩

/-- A probe that has set out ends as the transport answered it then. -/
lemma exists_departure {i : Nat} {a : Rpc.Settled} {endpoint : Endpoint}
    (htaken : ∀ x ∈ stages, Turns setup method x)
    (hdeparted : departures (turnsOf setup stages) = answers.mapIdx (Turn.setOut start))
    (ha : answers[i]? = some a) (hget : setup.registry.get? i = some endpoint) :
    ∃ x ∈ stages, x.task.turn? setup x.before = some (.setOut start i a) ∧
      a = (setup.transport.send x.before.wire endpoint ⟨method, []⟩).1.settle endpoint.timeout := by
  have hmem : Turn.setOut start i a ∈ departures (turnsOf setup stages) := by
    obtain ⟨hlt, rfl⟩ := List.getElem?_eq_some_iff.mp ha
    rw [hdeparted]
    exact List.mem_mapIdx.mpr ⟨i, hlt, rfl⟩
  obtain ⟨x, hx, hturn⟩ := List.mem_filterMap.mp (List.mem_filter.mp hmem).1
  obtain ⟨turn, hturn', htaken⟩ := htaken x hx
  obtain rfl := Option.some.inj (hturn.symm.trans hturn')
  exact ⟨x, hx, hturn, htaken.settled rfl endpoint hget⟩

/-- The ends of the probes are those of the answers that the transport gave when they set out. -/
lemma exists_answer (h : Ran setup.registry.size start answers none none (turnsOf setup stages))
    (htaken : ∀ x ∈ stages, Turns setup method x) :
    ∃ answer : Nat → Rpc.Answer,
      (∀ i endpoint, setup.registry.get? i = some endpoint →
        ∃ x ∈ stages, ∃ a, x.task.turn? setup x.before = some (.setOut start i a) ∧
          answer i = (setup.transport.send x.before.wire endpoint ⟨method, []⟩).1) ∧
      answers = setup.registry.endpoints.mapIdx fun i e => (answer i).settle e.timeout := by
  have hone : ∀ i, ∃ a : Rpc.Answer, ∀ endpoint, setup.registry.get? i = some endpoint →
      (∃ x ∈ stages, ∃ b, x.task.turn? setup x.before = some (.setOut start i b) ∧
        a = (setup.transport.send x.before.wire endpoint ⟨method, []⟩).1) ∧
      answers[i]? = some (a.settle endpoint.timeout) := by
    intro i
    cases hget : setup.registry.get? i with
    | none => exact ⟨⟨0, .silence⟩, nofun⟩
    | some endpoint =>
      have hlt : i < answers.length :=
        (h.sent i).mpr ⟨(List.getElem?_eq_some_iff.mp hget).1, nofun⟩
      have hat := List.getElem?_eq_getElem hlt
      obtain ⟨x, hx, hturn, hsettled⟩ := exists_departure htaken h.departed hat hget
      refine ⟨(setup.transport.send x.before.wire endpoint ⟨method, []⟩).1, ?_⟩
      intro endpoint' hget'
      cases hget'
      exact ⟨⟨x, hx, _, hturn, rfl⟩, by rw [← hsettled, hat]⟩
  choose answer hanswer using hone
  refine ⟨answer, fun i endpoint hget => (hanswer i endpoint hget).1, ?_⟩
  apply List.ext_getElem?
  intro i
  rw [List.getElem?_mapIdx]
  cases hget : setup.registry.get? i with
  | none =>
    have hlen : answers.length ≤ i := by
      by_contra hlt
      have hsize := ((h.sent i).mp (Nat.lt_of_not_le hlt)).1
      have hnone := List.getElem?_eq_none_iff.mp hget
      exact absurd hsize (Nat.not_lt.mpr hnone)
    have hend : setup.registry.endpoints[i]? = none := hget
    rw [List.getElem?_eq_none hlen, hend, Option.map_none]
  | some endpoint =>
    have hat : setup.registry.endpoints[i]? = some endpoint := hget
    rw [(hanswer i endpoint hget).2, hat, Option.map_some]

/-- A request under a deadline counts as a success of a probe exactly if it brings a value other
than null in time. -/
lemma exists_outcome_iff {deadline : Duration} {a : Rpc.Answer} {r : Rpc.Result Json}
    (hr : (a.settle deadline).ending = .result r) :
    (∃ v, outcome r = .ok v) ↔ a.isGood deadline = true := by
  rcases le_or_gt a.arrival deadline.timerMillis with hin | hlate
  · obtain ⟨-, hlatency⟩ := Rpc.Answer.arrival_le_iff.mp hin
    have hreply := (Rpc.Answer.settle_of_le hin).2
    rw [hr] at hreply
    unfold Rpc.Answer.isGood
    cases hcase : a.reply with
    | silence => simp [hcase, Rpc.Reply.ending?] at hreply
    | fault f => simp [hcase, Rpc.Reply.ending?] at hreply
    | result r' =>
      obtain rfl : r' = r := by simpa [hcase, Rpc.Reply.ending?] using hreply
      rcases r' with failure | v
      · simp [outcome]
      · cases v <;> simp [outcome, hlatency]
  · have hbad : a.isGood deadline ≠ true := by
      intro hgood
      refine absurd (Rpc.Answer.arrival_le_iff.mpr ?_) (not_le_of_gt hlate)
      unfold Rpc.Answer.isGood at hgood
      split at hgood
      case h_1 => cases hgood
      case h_2 hreply => exact ⟨by simp [hreply], of_decide_eq_true hgood⟩
      case h_3 => cases hgood
    rw [Rpc.Answer.settle_of_lt hlate] at hr
    cases hr
    simp [outcome, hbad]

/-- What is taken in at the end of a probe. -/
lemma entries_arrive {i : Nat} {endpoint : Endpoint} (hget : setup.registry.get? i = some endpoint)
    (a : Rpc.Answer) {r : Rpc.Result Json} (hr : (a.settle endpoint.timeout).ending = .result r) :
    (Turn.arrive start i (a.settle endpoint.timeout)).entries setup =
      [entry setup start i endpoint a] := by
  have hgood := exists_outcome_iff hr
  unfold Turn.entries Turn.deeds entry
  simp only [Turn.arrive, hget, hr, ← Rpc.Answer.after_settle]
  cases hcase : outcome r with
  | ok v =>
    rw [if_pos (hgood.mp ⟨v, hcase⟩)]
    rfl
  | error failure =>
    have hbad : ¬ a.isGood endpoint.timeout = true := by
      rw [← hgood, hcase]
      rintro ⟨v, hv⟩
      cases hv
    rw [if_neg hbad]
    rfl

/-! ## Cycles without faults -/

/-- The end of a probe that is on its way is an answer of the transport under a deadline. -/
lemma Kept.settled (h : Kept setup method start stages w c) {i since : Nat} {a : Rpc.Settled}
    {endpoint : Endpoint} (hphase : c.phase = .running probes)
    (hprobe : probes[i]? = some (.waiting since a))
    (hget : setup.registry.get? i = some endpoint) :
    since = start ∧ w.now ≤ start + a.after ∧ ∃ v : World σ,
      a = (setup.transport.send v.wire endpoint ⟨method, []⟩).1.settle endpoint.timeout := by
  rcases h.phase with ⟨answers, probes', hphase', hmidway⟩ | ⟨-, -, f, hphase', -⟩
  · cases hphase.symm.trans hphase'
    rcases hmidway.phase_cases hprobe with ⟨-, hunsent⟩ | ⟨b, hb, hwaiting | hdone⟩
    · cases hunsent
    · cases hwaiting
      obtain ⟨x, -, -, hsettled⟩ := exists_departure h.taken hmidway.departed hb hget
      exact ⟨rfl, (hmidway.waiting i _ hb hprobe).1, x.before, hsettled⟩
    · cases hdone
  · cases hphase.symm.trans hphase'

/-- Without faults of the transport a cycle is ended by none, as long as the clock can show the ends
of breakers. -/
lemma fault?_eq_none_of_course
    (h : (routine setup).Course w₀ (.start method setup.registry.size) stages w c)
    (htransport : setup.transport.Faultless)
    (hclock : ∀ e ∈ setup.registry.endpoints,
      (setup.clock.afterMillis (w₀.now + e.timeout.timerMillis)).instant.nanos +
        w₀.tracker.breakers.timeout.nanos < Instant.limit) : c.fault? = none := by
  induction h with
  | begin => rfl
  | meanwhile _ _ _ _ _ ih => exact ih
  | @step stages w next c c' notes hcourse hstep ih =>
    have hkept := kept_of_course hcourse
    obtain ⟨i, hindex, hat⟩ := Option.bind_eq_some_iff.mp hstep
    cases takes_of_stepAt? hat with
    | send => rfl
    | succeed => rfl
    | fail => rfl
    | crash hphase hprobe hdue hget hending =>
      obtain ⟨-, -, v, rfl⟩ := hkept.settled hphase hprobe hget
      exact absurd hending (v.ending_ne_fault htransport _)
    | overflow hphase hprobe hdue hget hending houtcome hfault =>
      obtain ⟨-, htime, v, rfl⟩ := hkept.settled hphase hprobe hget
      have hnow := htime.trans (Nat.add_le_add_left (Rpc.Answer.settle_after_le _ _) _)
      have hlater := setup.clock.instant_after_mono
        (Nat.mul_le_mul_right Time.nanosPerMilli hnow)
      have hends := hclock _ (List.mem_of_getElem? hget)
      rw [World.recordFailure_fault, Tracker.fault?_failure_eq_none] at hfault
      · cases hfault
      · rw [hcourse.timeout (orderly_routine setup)]
        exact (Nat.add_le_add_right hlater _).trans_lt hends

/-! ## Requests -/

/-- What a turn has the tracker take in is the observation of a probe. -/
lemma observer_of_mem_entries {x : Turn} {e : Tracker.Entry} (he : e ∈ x.entries setup) {i : Nat}
    {o : Observation} (ho : e.observed? = some (i, o)) : o.observer = .probe := by
  obtain ⟨deed, hdeed, rfl⟩ := List.mem_map.mp he
  unfold Turn.deeds at hdeed
  split at hdeed
  case h_1 =>
    split at hdeed
    · obtain rfl := List.mem_singleton.mp hdeed
      cases ho
      rfl
    · obtain rfl := List.mem_singleton.mp hdeed
      cases ho
      rfl
  case h_2 => cases hdeed

/-! ## The law -/

/-- What a cycle does that began in a world, up to any moment of its course. -/
structure CourseLaw (setup : Setup σ) (method : String) (w₀ : World σ)
    (stages : List (Stage σ Cycle)) (w : World σ) (c : Cycle) : Prop where
  unfaulted : c.fault? = none
  /-- Every step is a turn of one probe and reports what this brings when it is taken. -/
  taken : ∀ x ∈ stages, Turns setup method x
  /-- No step counts as a request. -/
  requests : ∀ x ∈ stages, ∀ i,
    (x.after.tracker.recordAt i).totalRequests = (x.before.tracker.recordAt i).totalRequests ∧
      (x.after.tracker.recordAt i).successfulRequests =
        (x.before.tracker.recordAt i).successfulRequests
  /-- As long as the cycle is not over it goes on at some time, no later than a deadline. -/
  goes_on : c.isOver = false → ∃ t, c.wakesAt? w.now = some t ∧
    (∃ e ∈ setup.registry.endpoints, t ≤ w₀.now + e.timeout.timerMillis) ∧
    ∀ v : World σ, t ≤ v.now → (c.step? setup v).isSome
  swept : c.isOver = true → ∃ answer, Swept setup method w₀.now stages answer

/-- The stages of a cycle send what its turns do. -/
lemma sendings_stages (htaken : ∀ x ∈ stages, Turns setup method x) :
    Journal.sendings (stages.flatMap Stage.notes) =
      (turnsOf setup stages).flatMap (Turn.sendings setup.registry ⟨method, []⟩) := by
  induction stages with
  | nil => rfl
  | cons x stages ih =>
    obtain ⟨turn, hturn, hone⟩ := htaken x List.mem_cons_self
    have hrest := ih fun y hy => htaken y (List.mem_cons_of_mem _ hy)
    have hturns : turnsOf setup (x :: stages) = turn :: turnsOf setup stages := by
      simp [turnsOf, hturn]
    rw [List.flatMap_cons, Journal.sendings_append, hturns, List.flatMap_cons, hone.sendings,
      hrest]

/-- A cycle that is not over goes on, no later than at the deadline of one of its probes. -/
lemma Kept.goes_on (h : Kept setup method start stages w c) (hover : c.isOver = false) :
    ∃ t, c.wakesAt? w.now = some t ∧
      (∃ e ∈ setup.registry.endpoints, t ≤ start + e.timeout.timerMillis) ∧
      ∀ v : World σ, t ≤ v.now → (c.step? setup v).isSome := by
  rcases h.phase with ⟨answers, probes, hphase, hmidway⟩ | ⟨-, -, f, hphase, -⟩
  · have hcovers : c.Covers setup.registry.size := by
      intro probes' hphase'
      cases hphase.symm.trans hphase'
      exact hmidway.length
    obtain ⟨t, ht, hstep⟩ := hcovers.exists_due hover w.now
    refine ⟨t, ht, ?_, hstep⟩
    rw [wakesAt?, hphase] at ht
    obtain ⟨probe, hprobe, hwakes⟩ := List.mem_filterMap.mp (List.min?_mem ht)
    obtain ⟨i, hi⟩ := List.mem_iff_getElem?.mp hprobe
    have hlt := hmidway.lt_size hi
    have hget : setup.registry.get? i = some setup.registry.endpoints[i] :=
      List.getElem?_eq_getElem hlt
    refine ⟨_, List.getElem_mem hlt, ?_⟩
    rcases hmidway.phase_cases hi with ⟨hunsent, rfl⟩ | ⟨a, ha, rfl | rfl⟩
    · have hnow := hmidway.early (by omega)
      cases hwakes
      omega
    · obtain ⟨-, -, v, rfl⟩ := h.settled hphase hi hget
      cases hwakes
      exact Nat.add_le_add_left (Rpc.Answer.settle_after_le _ _) _
    · cases hwakes
  · rw [isOver, hphase] at hover
    cases hover

/-- A turn after which no answer arrives is one at which an answer does. -/
lemma Ran.time_mem (h : Ran size start answers none none turns) (hpos : 0 < answers.length)
    {x : Turn} (hx : x ∈ turns) (hlast : ∀ a ∈ answers, start + a.after ≤ x.time) :
    x.time ∈ answers.map fun a => start + a.after := by
  cases hkind : x.kind with
  | setsOut =>
    -- it sets out when the cycle begins, so all answers have arrived by then
    have hdeparts : x ∈ departures turns := List.mem_filter.mpr ⟨hx, by simp [hkind]⟩
    rw [h.departed] at hdeparts
    obtain ⟨i, hi, rfl⟩ := List.mem_mapIdx.mp hdeparts
    have hfirst := hlast _ (List.getElem_mem hpos)
    have hstart : (Turn.setOut start i answers[i]).time = start := rfl
    exact List.mem_map.mpr ⟨answers[0], List.getElem_mem hpos, by omega⟩
  | ends =>
    have harrives : x ∈ arrivals turns := List.mem_filter.mpr ⟨hx, by simp [hkind]⟩
    obtain ⟨i, a, ha, rfl, -⟩ := (h.arrived _).mp harrives
    exact List.mem_map_of_mem (List.mem_of_getElem? ha)

/-- The last step of a cycle that has taken all of its turns is at the time at which the last answer
arrives. -/
lemma last_time_of_ran
    (hcourse : (routine setup).Course w₀ c₀ stages w c)
    (htaken : ∀ x ∈ stages, Turns setup method x)
    (hran : Ran size start answers none none (turnsOf setup stages))
    (hpos : 0 < answers.length) :
    ∃ last, stages.getLast? = some last ∧
      (answers.map fun a => start + a.after).max? = some last.before.now := by
  have harrival : ∀ a ∈ answers, ∃ x ∈ stages, x.before.now = start + a.after := by
    intro a ha
    obtain ⟨i, hi⟩ := List.mem_iff_getElem?.mp ha
    have hmem := (hran.arrived _).mpr ⟨i, a, hi, rfl, nofun⟩
    obtain ⟨x, hx, hturn⟩ := List.mem_filterMap.mp (List.mem_filter.mp hmem).1
    obtain ⟨turn, hturn', hone⟩ := htaken x hx
    obtain rfl := Option.some.inj (hturn.symm.trans hturn')
    exact ⟨x, hx, hone.time.symm⟩
  obtain ⟨x, hx, -⟩ := harrival _ (List.getElem_mem hpos)
  have hlast := List.getLast?_eq_some_getLast (List.ne_nil_of_mem hx)
  generalize stages.getLast (List.ne_nil_of_mem hx) = last at hlast
  have hbound : ∀ a ∈ answers, start + a.after ≤ last.before.now := by
    intro a ha
    obtain ⟨x, hx, htime⟩ := harrival a ha
    exact htime ▸ hcourse.le_last (orderly_routine setup) hlast x hx
  have hmem := List.mem_of_getLast? hlast
  obtain ⟨turn, hturn, hone⟩ := htaken last hmem
  rw [← hone.time] at hbound
  refine ⟨last, hlast, List.max?_eq_some_iff.mpr ⟨?_, ?_⟩⟩
  · rw [← hone.time]
    exact hran.time_mem hpos (List.mem_filterMap.mpr ⟨last, hmem, hturn⟩) hbound
  · intro time htime
    obtain ⟨a, ha, rfl⟩ := List.mem_map.mp htime
    exact (hbound a ha).trans hone.time.le

section Answers

variable {answer : Nat → Rpc.Answer}

/-- Every endpoint is sent one request. -/
lemma Ran.sendings_eq (h : Ran size start answers none none turns)
    (hanswers : answers =
      setup.registry.endpoints.mapIdx fun i e => (answer i).settle e.timeout) :
    turns.flatMap (Turn.sendings setup.registry ⟨method, []⟩) =
      setup.registry.endpoints.map fun e => ⟨start, e.url, ⟨method, []⟩⟩ := by
  have hdeparted : turns.flatMap (Turn.sendings setup.registry ⟨method, []⟩) =
      (departures turns).flatMap (Turn.sendings setup.registry ⟨method, []⟩) := by
    refine (flatMap_filter_eq _ ?_).symm
    intro x hx
    unfold Turn.sendings
    cases hkind : x.kind with
    | setsOut => simp [hkind] at hx
    | ends => rfl
  rw [hdeparted, h.departed, hanswers, List.mapIdx_mapIdx,
    flatMap_mapIdx_eq (h := fun _ e => ⟨start, e.url, ⟨method, []⟩⟩)]
  · exact List.ext_getElem? (by simp)
  · intro i endpoint hget
    have hat : setup.registry.get? i = some endpoint := hget
    simp [Turn.sendings, Turn.setOut, hat]

/-- One observation is made of every endpoint. -/
lemma Ran.entries_perm (h : Ran size start answers none none turns)
    (hanswers : answers =
      setup.registry.endpoints.mapIdx fun i e => (answer i).settle e.timeout) :
    (turns.flatMap (Turn.entries setup)).Perm
      (setup.registry.endpoints.mapIdx fun i e => entry setup start i e (answer i)) := by
  have harrived : turns.flatMap (Turn.entries setup) =
      (arrivals turns).flatMap (Turn.entries setup) := by
    refine (flatMap_filter_eq _ ?_).symm
    intro x hx
    unfold Turn.entries Turn.deeds
    cases hkind : x.kind with
    | setsOut => rfl
    | ends => simp [hkind] at hx
  have hentries : (answers.mapIdx (Turn.arrive start)).flatMap (Turn.entries setup) =
      setup.registry.endpoints.mapIdx fun i e => entry setup start i e (answer i) := by
    rw [hanswers, List.mapIdx_mapIdx]
    refine flatMap_mapIdx_eq ?_
    intro i endpoint hget
    have hsome : answers[i]? = some ((answer i).settle endpoint.timeout) := by
      rw [hanswers, List.getElem?_mapIdx, hget, Option.map_some]
    obtain ⟨r, hr⟩ := h.results i _ ((h.arrived _).mpr ⟨i, _, hsome, rfl, nofun⟩) nofun
    exact entries_arrive hget (answer i) hr
  rw [harrived, ← hentries]
  exact h.perm_arrivals.flatMap_right _

end Answers

/-- A cycle that is over without a fault has probed every endpoint once. -/
lemma exists_swept (h : (routine setup).Course w₀ (.start method setup.registry.size) stages w c)
    (hover : c.isOver = true) (hfault : c.fault? = none) :
    ∃ answer, Swept setup method w₀.now stages answer := by
  have hkept := kept_of_course h
  obtain ⟨answers, hran⟩ := hkept.ran hover hfault
  obtain ⟨answer, hanswered, hanswers⟩ := exists_answer hran hkept.taken
  refine ⟨answer, hanswered, ?_, hran.entries_perm hanswers, ?_⟩
  · rw [sendings_stages hkept.taken]
    exact hran.sendings_eq hanswers
  · have hpos : 0 < answers.length := by
      rw [hanswers, List.length_mapIdx]
      exact setup.registry.size_pos
    obtain ⟨last, hlast, hmax⟩ := last_time_of_ran h hkept.taken hran hpos
    have hspans : (answers.map fun a => w₀.now + a.after) =
        setup.registry.endpoints.mapIdx fun i e => w₀.now + (answer i).span e.timeout := by
      rw [hanswers]
      exact List.ext_getElem? (by simp [Function.comp_def, Rpc.Answer.after_settle])
    exact ⟨last, hlast, hspans ▸ hmax⟩

/-- A cycle without faults does what it should up to any moment of its course. -/
theorem law_of_course
    (h : (routine setup).Course w₀ (.start method setup.registry.size) stages w c)
    (htransport : setup.transport.Faultless)
    (hclock : ∀ e ∈ setup.registry.endpoints,
      (setup.clock.afterMillis (w₀.now + e.timeout.timerMillis)).instant.nanos +
        w₀.tracker.breakers.timeout.nanos < Instant.limit) :
    CourseLaw setup method w₀ stages w c where
  unfaulted := fault?_eq_none_of_course h htransport hclock
  taken := (kept_of_course h).taken
  requests := by
    intro x hx i
    obtain ⟨turn, -, hone⟩ := (kept_of_course h).taken x hx
    rw [hone.tracker]
    exact Tracker.requests_replay (fun e he j o ho => observer_of_mem_entries he ho) _ i
  goes_on := (kept_of_course h).goes_on
  swept := fun hover => exists_swept h hover (fault?_eq_none_of_course h htransport hclock)

end Cycle

end Failover
