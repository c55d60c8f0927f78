import Failover.Proofs.Retry.Attempts
import Failover.Proofs.Traffic.Visits

/-!
# How long a call takes

The clock plays a part in a call only where it waits, and at every moment of its course it waits for
one thing: that the visits it has made so far are over. This is the invariant (`Call.OnTrack`). It
says for each phase which visits are finished and how far the last one is, and that the call goes on
at the time at which it began plus what all of them take. So every step is made at such a time, the
last one too.
-/

namespace Failover

open Visit (total total_concat Timetable Placed Finished)

variable {σ : Type} {setup : Setup σ} {request : Rpc.Request}

/-! ## The invariant -/

/-- The visits to the endpoints before an index are over. -/
structure Visit.Behind (setup : Setup σ) (request : Rpc.Request) (start index : Nat)
    (visits : List (Visit σ)) : Prop where
  placed : Placed setup.registry index visits
  timetable : Timetable setup request start visits
  finished : ∀ v ∈ visits, v.Finished
  allowed : ∀ v ∈ visits, v.sends.length ≤ setup.allowed v.endpoint

/-- After visits that are over, a visit has made so many attempts, with a pause after each of them,
and may make another one. -/
structure Visit.Resting (setup : Setup σ) (request : Rpc.Request) (start index attempt : Nat)
    (before : List (Visit σ)) (v : Visit σ) : Prop where
  behind : Behind setup request start index before
  get? : setup.registry.get? index = some v.endpoint
  index_eq : v.index = index
  timed : v.Timed setup request (start + total setup request before)
  sends : v.sends.length = attempt
  pauses : v.pauses.length = attempt
  left : attempt < setup.allowed v.endpoint

/-- Where a call stands that began at a time and has made these visits, by what it does at the
moment. -/
def Call.OnTrack (setup : Setup σ) (start : Nat) (visits : List (Visit σ)) (now : Nat) (c : Call) :
    Prop :=
  match c.phase with
  | .looking index =>
    Visit.Behind setup c.request start index visits ∧ now = start + total setup c.request visits
  | .waiting index attempt since settled =>
    ∃ before v sent, Visit.Resting setup c.request start index attempt before v ∧
      visits = before ++ [v.send sent] ∧ since = sent.now ∧
      sent.now = start + total setup c.request before + v.time setup c.request ∧
      settled = (v.answer setup c.request sent).settle v.endpoint.timeout ∧
      now ≤ since + settled.after
  | .pausing index attempt endsAt =>
    ∃ before v, Visit.Resting setup c.request start index attempt before v ∧
      visits = before ++ [v] ∧ endsAt = start + total setup c.request visits ∧ now ≤ endsAt
  | .ended _ => ∃ index, Visit.Behind setup c.request start index visits

/-- What holds of the visits of a call at every moment of its course: all but the last one are
over. -/
structure Visit.Ordered (setup : Setup σ) (request : Rpc.Request) (start : Nat)
    (visits : List (Visit σ)) : Prop where
  placed : ∃ index, Placed setup.registry index visits
  timetable : Timetable setup request start visits
  finished : ∀ v ∈ visits.dropLast, v.Finished
  allowed : ∀ v ∈ visits,
    v.sends.length ≤ setup.allowed v.endpoint ∧ v.pauses.length + 1 ≤ setup.allowed v.endpoint

namespace Visit

variable {start index attempt : Nat} {visits before : List (Visit σ)} {v : Visit σ}
  {w sent : World σ}

/-- Before the first endpoint there is no visit behind a call. -/
lemma behind_nil (setup : Setup σ) (request : Rpc.Request) (start : Nat) :
    Behind setup request start 0 [] where
  placed := List.nil_sublist _
  timetable := trivial
  finished := nofun
  allowed := nofun

/-- An endpoint that is skipped adds no visit. -/
lemma Behind.skip (h : Behind setup request start index visits) :
    Behind setup request start (index + 1) visits :=
  { h with placed := h.placed.skip }

/-- The visits behind a call are in order. -/
lemma Behind.ordered (h : Behind setup request start index visits) :
    Ordered setup request start visits where
  placed := ⟨index, h.placed⟩
  timetable := h.timetable
  finished := fun v hv => h.finished v (List.dropLast_subset _ hv)
  allowed := fun v hv => ⟨h.allowed v hv, (h.finished v hv).ge.trans (h.allowed v hv)⟩

/-- A visit begins. -/
lemma Behind.resting (h : Behind setup request start index visits) {endpoint : Endpoint}
    (hget : setup.registry.get? index = some endpoint) :
    Resting setup request start index 0 visits ⟨index, endpoint, [], []⟩ where
  behind := h
  get? := hget
  index_eq := rfl
  timed := nofun
  sends := rfl
  pauses := rfl
  left := (setup.policy.forEndpoint endpoint).maxAttempts_pos

namespace Resting

/-- So are those up to a visit that goes on. -/
lemma ordered (h : Resting setup request start index attempt before v) :
    Ordered setup request start (before ++ [v]) where
  placed := ⟨_, h.behind.placed.concat h.get? h.index_eq⟩
  timetable := h.behind.timetable.concat h.timed
  finished := by
    intro u hu
    rw [List.dropLast_concat] at hu
    exact h.behind.finished u hu
  allowed := by
    intro u hu
    rcases List.mem_append.mp hu with hbefore | hlast
    · exact h.behind.ordered.allowed u hbefore
    · obtain rfl := List.mem_singleton.mp hlast
      exact ⟨h.sends.le.trans h.left.le, (Nat.succ_le_succ h.pauses.le).trans h.left⟩

/-- A visit that sends on time is timed after the sending. -/
lemma timed_send (h : Resting setup request start index attempt before v)
    (hnow : sent.now = start + total setup request before + v.time setup request) :
    (v.send sent).Timed setup request (start + total setup request before) :=
  h.timed.send (h.pauses.trans h.sends.symm) hnow

/-- While an attempt is on its way, the visits will be over with it. -/
lemma arrival_eq (hnow : sent.now = start + total setup request before + v.time setup request) :
    sent.now + ((v.answer setup request sent).settle v.endpoint.timeout).after =
      start + total setup request (before ++ [v.send sent]) := by
  rw [total_concat, time_send, Rpc.Answer.after_settle, hnow]
  omega

/-- After an attempt a visit may be over. -/
lemma finish (h : Resting setup request start index attempt before v)
    (hnow : sent.now = start + total setup request before + v.time setup request) :
    Behind setup request start (index + 1) (before ++ [v.send sent]) where
  placed := h.behind.placed.concat h.get? h.index_eq
  timetable := h.behind.timetable.concat (h.timed_send hnow)
  finished := by
    intro u hu
    rcases List.mem_append.mp hu with hbefore | hlast
    · exact h.behind.finished u hbefore
    · obtain rfl := List.mem_singleton.mp hlast
      have hsends := h.sends
      have hpauses := h.pauses
      simp [Finished, send]
      omega
  allowed := by
    intro u hu
    rcases List.mem_append.mp hu with hbefore | hlast
    · exact h.behind.allowed u hbefore
    · obtain rfl := List.mem_singleton.mp hlast
      have hsends := h.sends
      have hleft := h.left
      simp [send]
      omega

/-- After an attempt a pause begins if there is another one. -/
lemma rest (h : Resting setup request start index attempt before v)
    (hnow : sent.now = start + total setup request before + v.time setup request)
    (hleft : attempt + 1 < setup.allowed v.endpoint) (w : World σ) :
    Resting setup request start index (attempt + 1) before ((v.send sent).pause w) where
  behind := h.behind
  get? := h.get?
  index_eq := h.index_eq
  timed := by
    have hsends := h.sends
    have hpauses := h.pauses
    refine (h.timed_send hnow).pause ?_ w
    simp [send]
    omega
  sends := by simp [send, pause, h.sends]
  pauses := by simp [send, pause, h.pauses]
  left := hleft

end Resting

end Visit

/-! ## The steps -/

namespace Call

variable {start index attempt since : Nat} {visits : List (Visit σ)} {w : World σ} {c : Call}
  {settled : Rpc.Settled} {endpoint : Endpoint}

/-- A call that has ended makes no more steps. -/
lemma result?_of_step? {out : World σ × Call × Journal} (hstep : c.step? setup w = some out) :
    c.result? = none := by
  cases hresult : c.result? with
  | none => rfl
  | some r => simp [step?, result?_eq_some_iff.mp hresult] at hstep

/-- A pause after a failed attempt ends when its delay is over. -/
lemma endsAt_of_step? {out : World σ × Call × Journal} {failure : Rpc.Failure} {endsAt : Nat}
    (hstep : c.step? setup w = some out) (hphase : c.phase = .waiting index attempt since settled)
    (hdue : since + settled.after ≤ w.now) (hget : setup.registry.get? index = some endpoint)
    (hending : settled.ending = .result (.error failure))
    (hleft : attempt + 1 < setup.allowed endpoint)
    (hpausing : out.2.1.phase = .pausing index (attempt + 1) endsAt) :
    endsAt = w.now +
      (Backoff.delay attempt setup.policy.unit (setup.draw w.drawn)).timerMillis := by
  unfold Setup.allowed at hleft
  rw [step?, hphase] at hstep
  simp only [hdue, if_true, hget, Option.map_some, hending, settle, RetryPolicy.next, hleft,
    RetryPolicy.unit_forEndpoint] at hstep
  rw [← Option.some.inj hstep] at hpausing
  exact (CallPhase.pausing.inj hpausing).2.2.symm

/-- As long as a call has not ended, it goes on when the visits it has made are over. -/
lemma OnTrack.wakesAt? {now : Nat} (h : c.OnTrack setup start visits now)
    (hresult : c.result? = none) :
    c.wakesAt? now = some (start + total setup c.request visits) ∧
      now ≤ start + total setup c.request visits := by
  unfold OnTrack at h
  unfold Call.wakesAt?
  cases hphase : c.phase with
  | looking index =>
    rw [hphase] at h
    exact ⟨congrArg some h.2, h.2.le⟩
  | waiting index attempt since settled =>
    rw [hphase] at h
    obtain ⟨before, v, sent, -, rfl, rfl, hsent, rfl, hnow⟩ := h
    rw [Visit.Resting.arrival_eq hsent] at hnow
    exact ⟨congrArg some (Visit.Resting.arrival_eq hsent), hnow⟩
  | pausing index attempt endsAt =>
    rw [hphase] at h
    obtain ⟨before, v, -, -, rfl, hnow⟩ := h
    exact ⟨rfl, hnow⟩
  | ended r => simp [result?, hphase] at hresult

/-- Then it can make a step. -/
lemma OnTrack.isSome_step? {now : Nat} (h : c.OnTrack setup start visits now)
    (hresult : c.result? = none) (hdue : start + total setup c.request visits ≤ w.now) :
    (c.step? setup w).isSome := by
  have hwakes := (h.wakesAt? hresult).1
  unfold OnTrack at h
  unfold Call.wakesAt? at hwakes
  unfold step?
  cases hphase : c.phase with
  | looking index => rfl
  | waiting index attempt since settled =>
    rw [hphase] at h hwakes
    obtain ⟨before, v, sent, hresting, -⟩ := h
    have htime := (Option.some.inj hwakes).trans_le hdue
    simp [htime, hresting.get?]
  | pausing index attempt endsAt =>
    rw [hphase] at h hwakes
    obtain ⟨before, v, hresting, -⟩ := h
    have htime := (Option.some.inj hwakes).trans_le hdue
    simp [htime, hresting.get?]
  | ended r => simp [result?, hphase] at hresult

/-- A call makes no step before its time. -/
lemma OnTrack.now_eq (h : c.OnTrack setup start visits w.now) {out : World σ × Call × Journal}
    (hstep : c.step? setup w = some out) : w.now = start + total setup c.request visits := by
  have hresult := result?_of_step? hstep
  obtain ⟨hwakes, hle⟩ := h.wakesAt? hresult
  refine hle.antisymm ?_
  unfold Call.wakesAt? at hwakes
  unfold step? at hstep
  cases hphase : c.phase with
  | looking index =>
    rw [hphase] at hwakes
    exact (Option.some.inj hwakes).ge
  | waiting index attempt since settled =>
    rw [hphase] at hwakes hstep
    dsimp only at hstep
    split at hstep
    case isTrue hdue => exact (Option.some.inj hwakes).ge.trans hdue
    case isFalse => cases hstep
  | pausing index attempt endsAt =>
    rw [hphase] at hwakes hstep
    dsimp only at hstep
    split at hstep
    case isTrue hdue => exact (Option.some.inj hwakes).ge.trans hdue
    case isFalse => cases hstep
  | ended r => simp [result?, hphase] at hresult

/-- Time may pass until a call goes on. -/
lemma OnTrack.meanwhile {now later : Nat} (h : c.OnTrack setup start visits now) (hle : now ≤ later)
    (hwakes : ∀ t, c.wakesAt? now = some t → later ≤ max now t) :
    c.OnTrack setup start visits later := by
  cases hresult : c.result? with
  | none =>
    obtain ⟨ht, hbefore⟩ := h.wakesAt? hresult
    have hlater := hwakes _ ht
    rw [Nat.max_eq_right hbefore] at hlater
    unfold OnTrack at h ⊢
    cases hphase : c.phase with
    | looking index =>
      rw [hphase] at h
      exact ⟨h.1, hlater.antisymm (h.2.ge.trans hle)⟩
    | waiting index attempt since settled =>
      rw [hphase] at h
      obtain ⟨before, v, sent, hresting, rfl, rfl, hsent, rfl, -⟩ := h
      refine ⟨before, v, sent, hresting, rfl, rfl, hsent, rfl, ?_⟩
      rw [Visit.Resting.arrival_eq hsent]
      exact hlater
    | pausing index attempt endsAt =>
      rw [hphase] at h
      obtain ⟨before, v, hresting, hvisits, rfl, -⟩ := h
      exact ⟨before, v, hresting, hvisits, rfl, hlater⟩
    | ended r => simp [result?, hphase] at hresult
  | some r =>
    rw [result?_eq_some_iff] at hresult
    unfold OnTrack at h ⊢
    rw [hresult] at h ⊢
    exact h

/-- Every step of a call leaves it on its track. -/
theorem OnTrack.step (h : c.OnTrack setup start visits w.now) {out : World σ × Call × Journal}
    (hstep : c.step? setup w = some out) :
    out.2.1.OnTrack setup start (Visit.extend setup visits ⟨w, c, out.1, out.2.1, out.2.2⟩)
      out.1.now := by
  have hnow := h.now_eq hstep
  have hsame := now_of_step? hstep
  unfold OnTrack at h
  cases takes_of_step? hstep with
  | exhaust hphase =>
    rw [hphase] at h
    simp only [Visit.extend, hphase, exhaust, OnTrack]
    exact ⟨_, h.1⟩
  | skip hphase =>
    rw [hphase] at h
    simp only [Visit.extend, hphase, OnTrack]
    exact ⟨h.1.skip, hsame.trans hnow⟩
  | @visit index endpoint next notes hphase hget _ hnext =>
    subst hnext
    rw [hphase] at h
    simp only [Visit.extend, hphase, Call.attempt, OnTrack, hget]
    refine ⟨visits, ⟨index, endpoint, [], []⟩, w, h.1.resting hget, rfl, rfl, ?_, rfl, ?_⟩
    · exact hnow.trans (Nat.add_zero _).symm
    · exact Nat.le_add_right _ _
  | crash hphase =>
    rw [hphase] at h
    obtain ⟨before, v, sent, hresting, rfl, -, hsent, -⟩ := h
    simp only [Visit.extend, hphase, OnTrack]
    exact ⟨_, hresting.finish hsent⟩
  | succeed hphase =>
    rw [hphase] at h
    obtain ⟨before, v, sent, hresting, rfl, -, hsent, -⟩ := h
    simp only [Visit.extend, hphase, succeed, OnTrack]
    exact ⟨_, hresting.finish hsent⟩
  | @giveUp index _ _ _ endpoint failure hphase =>
    rw [hphase] at h
    obtain ⟨before, v, sent, hresting, rfl, -, hsent, -⟩ := h
    have hbehind := hresting.finish hsent
    unfold giveUp at hsame ⊢
    dsimp only at hsame ⊢
    split
    case h_1 =>
      simp only [Visit.extend, hphase, OnTrack]
      exact ⟨_, hbehind⟩
    case h_2 =>
      simp only [Visit.extend, hphase, OnTrack]
      exact ⟨hbehind, hnow⟩
  | @pause index attempt since settled endpoint failure drawn endsAt event hphase hdue hget hending
      hleft =>
    rw [hphase] at h
    obtain ⟨before, v, sent, hresting, rfl, -, hsent, -⟩ := h
    obtain rfl := Option.some.inj (hget.symm.trans hresting.get?)
    have hends := endsAt_of_step? hstep hphase hdue hget hending hleft rfl
    have hpauses : (v.send sent).pauses.length = attempt := hresting.pauses
    have htotal := Visit.total_pause setup c.request before (v.send sent) w
    rw [hpauses] at htotal
    simp only [Visit.extend, hphase, OnTrack, List.modifyLast_concat]
    refine ⟨before, _, hresting.rest hsent hleft w, rfl, ?_, ?_⟩
    · rw [htotal, hends, hnow, Nat.add_assoc]
    · rw [hends]
      exact Nat.le_add_right _ _
  | @resume index attempt endsAt endpoint hphase hdue hget =>
    rw [hphase] at h
    obtain ⟨before, v, hresting, rfl, rfl, -⟩ := h
    obtain rfl := Option.some.inj (hget.symm.trans hresting.get?)
    simp only [Visit.extend, hphase, Call.attempt, OnTrack, List.modifyLast_concat]
    refine ⟨before, v, w, hresting, rfl, rfl, ?_, rfl, Nat.le_add_right _ _⟩
    rw [hnow, total_concat, Nat.add_assoc]

/-- What a step sends is what it adds to the visits. -/
lemma OnTrack.sendings_extend {now : Nat} (h : c.OnTrack setup start visits now)
    {out : World σ × Call × Journal} (hstep : c.step? setup w = some out) :
    (Visit.extend setup visits ⟨w, c, out.1, out.2.1, out.2.2⟩).flatMap (Visit.sendings c.request) =
      visits.flatMap (Visit.sendings c.request) ++ out.2.2.sendings := by
  unfold OnTrack at h
  cases takes_of_step? hstep with
  | exhaust hphase =>
    rw [sendings_exhaust, List.append_nil]
    simp only [Visit.extend, hphase, exhaust]
  | skip hphase _ _ hquiet => simp [Visit.extend, hphase, hquiet]
  | visit hphase hget _ hnext hquiet =>
    subst hnext
    simp only [Visit.extend, hphase, Call.attempt, hget, List.flatMap_append,
      List.flatMap_singleton, Journal.sendings_append, hquiet, List.nil_append]
    rfl
  | crash hphase => simp [Visit.extend, hphase]
  | succeed hphase =>
    rw [sendings_succeed, List.append_nil]
    simp only [Visit.extend, hphase, succeed]
  | giveUp hphase =>
    rw [sendings_giveUp, List.append_nil]
    unfold giveUp
    dsimp only
    split <;> simp only [Visit.extend, hphase]
  | pause hphase =>
    rw [hphase] at h
    obtain ⟨before, v, sent, -, rfl, -⟩ := h
    simp only [Visit.extend, hphase, List.modifyLast_concat, List.flatMap_append,
      List.flatMap_singleton]
    exact (List.append_nil _).symm
  | resume hphase _ hget =>
    rw [hphase] at h
    obtain ⟨before, v, hresting, rfl, -⟩ := h
    obtain rfl := Option.some.inj (hget.symm.trans hresting.get?)
    simp only [Visit.extend, hphase, Call.attempt, List.modifyLast_concat, List.flatMap_append,
      List.flatMap_singleton, List.append_assoc]
    rw [Visit.sendings, Visit.send, List.map_append]
    rfl

end Call

/-! ## The law -/

/-- The last step of a call is no part of a visit. -/
lemma Visit.extend_of_ended {visits : List (Visit σ)} {x : Stage σ Call} {r : CallResult}
    (hended : x.next.phase = .ended r) : extend setup visits x = visits := by
  unfold extend
  rw [hended]
  cases x.task.phase <;> rfl

namespace Call

variable {w₀ w : World σ} {c : Call} {stages : List (Stage σ Call)}

/-- The visits of a call that is on track are in order. -/
lemma OnTrack.ordered {start now : Nat} {visits : List (Visit σ)}
    (h : c.OnTrack setup start visits now) :
    Visit.Ordered setup c.request start visits := by
  unfold OnTrack at h
  cases hphase : c.phase with
  | looking index =>
    rw [hphase] at h
    exact h.1.ordered
  | waiting index attempt since settled =>
    rw [hphase] at h
    obtain ⟨before, v, sent, hresting, rfl, -, hsent, -⟩ := h
    exact (hresting.finish hsent).ordered
  | pausing index attempt endsAt =>
    rw [hphase] at h
    obtain ⟨before, v, hresting, rfl, -⟩ := h
    exact hresting.ordered
  | ended r =>
    rw [hphase] at h
    obtain ⟨index, hbehind⟩ := h
    exact hbehind.ordered

/-- What a call that began in a world is like after the stages of its course. -/
structure Kept (setup : Setup σ) (request : Rpc.Request) (w₀ : World σ)
    (stages : List (Stage σ Call)) (w : World σ) (c : Call) : Prop where
  asks : c.request = request
  track : c.OnTrack setup w₀.now (visits setup stages) w.now
  sendings : Journal.sendings (stages.flatMap Stage.notes) =
    (visits setup stages).flatMap (Visit.sendings request)
  steps : stages.length + c.stepsLeft setup ≤ stepsFrom setup 0
  ended : c.result?.isSome → stages.getLast?.map (·.before.now) =
    some (w₀.now + total setup request (visits setup stages))

/-- Whatever others do, a call stays on its track. -/
theorem kept_of_course (h : (routine setup).Course w₀ (.start request w₀.now) stages w c) :
    Kept setup request w₀ stages w c := by
  induction h with
  | begin =>
    exact {
      asks := rfl
      track := ⟨Visit.behind_nil setup request w₀.now, rfl⟩
      sendings := rfl
      steps := (Nat.zero_add _).le
      ended := nofun }
  | @step stages w next c c' notes _ hstep ih =>
    obtain ⟨rfl, htrack, hsendings, hsteps, -⟩ := ih
    have hnow := htrack.now_eq hstep
    have hfewer : c'.stepsLeft setup < c.stepsLeft setup := stepsLeft_of_step? hstep
    refine ⟨request_of_takes (takes_of_step? hstep), ?_, ?_, ?_, ?_⟩
    · rw [visits_concat]
      exact htrack.step hstep
    · rw [visits_concat, List.flatMap_append, List.flatMap_singleton, Journal.sendings_append,
        hsendings]
      exact (htrack.sendings_extend hstep).symm
    · rw [List.length_append, List.length_singleton]
      omega
    · intro hresult
      obtain ⟨r, hr⟩ := Option.isSome_iff_exists.mp hresult
      rw [visits_concat, Visit.extend_of_ended (result?_eq_some_iff.mp hr), List.getLast?_concat,
        Option.map_some, hnow]
  | meanwhile _ _ _ hlater hwakes ih =>
    exact { ih with track := ih.track.meanwhile hlater hwakes }

/-- What a call does in time that began in a world, up to any moment of its course. -/
structure TimeLaw (setup : Setup σ) (request : Rpc.Request) (w₀ : World σ)
    (stages : List (Stage σ Call)) (w : World σ) (c : Call) : Prop where
  /-- Its visits go to the endpoints in registry order, and to none of them twice. -/
  placed : ((visits setup stages).map fun v => (v.endpoint, v.index)).Sublist
    setup.registry.endpoints.zipIdx
  /-- What it sends are the requests of the visits. -/
  sendings : Journal.sendings (stages.flatMap Stage.notes) =
    (visits setup stages).flatMap (Visit.sendings request)
  allowed : ∀ v ∈ visits setup stages, v.sends.length ≤ setup.allowed v.endpoint
  /-- It never sends more requests than its endpoints may get. -/
  sendings_le : (Journal.sendings (stages.flatMap Stage.notes)).length ≤
    (setup.registry.endpoints.map setup.allowed).sum
  /-- Each request is sent as soon as the visits, attempts and pauses before it are over. -/
  timetable : Timetable setup request w₀.now (visits setup stages)
  /-- A visit makes a pause between each attempt and the next one, and none after the last. -/
  finished : ∀ v ∈ (visits setup stages).dropLast, v.Finished
  /-- A visit takes its attempts, each until the answer arrives or the deadline is over, and its
  pauses. -/
  time_eq : ∀ v ∈ visits setup stages, (v.time setup request : ℕ∞) =
    (v.sends.map fun sent =>
      min (v.answer setup request sent).arrival v.endpoint.timeout.timerMillis).sum +
    (v.rests setup).sum
  /-- So it takes no longer than the deadlines of its attempts and its pauses. -/
  time_le : ∀ v ∈ visits setup stages, v.time setup request ≤
    v.sends.length * v.endpoint.timeout.timerMillis + (v.rests setup).sum
  total_le : total setup request (visits setup stages) ≤
    (setup.registry.endpoints.map setup.longestVisit).sum
  /-- An attempt ends with the answer to its request if this arrives by the deadline, and otherwise
  in a timeout. -/
  outcome : ∀ index attempt since settled, c.phase = .waiting index attempt since settled →
    ∃ v sent, (visits setup stages).getLast? = some v ∧ v.index = index ∧
      v.sends.length = attempt + 1 ∧ v.sends[attempt]? = some sent ∧ since = sent.now ∧
      settled.after = (v.answer setup request sent).span v.endpoint.timeout ∧
      ((v.answer setup request sent).arrival ≤ v.endpoint.timeout.timerMillis →
        (v.answer setup request sent).reply.ending? = some settled.ending) ∧
      (v.endpoint.timeout.timerMillis < (v.answer setup request sent).arrival →
        settled.ending = .result (.error (.timeout v.endpoint.timeout)))
  /-- It makes its steps exactly when the visits that it has made are over. -/
  on_time : ∀ out, c.step? setup w = some out →
    w.now = w₀.now + total setup request (visits setup stages)
  goes_on : c.result? = none →
    c.wakesAt? w.now = some (w₀.now + total setup request (visits setup stages)) ∧
      ∀ v : World σ, w₀.now + total setup request (visits setup stages) ≤ v.now →
        (c.step? setup v).isSome
  /-- It comes to its end after so many steps. -/
  steps_le : stages.length ≤ stepsFrom setup 0
  /-- It has ended with the last of its visits. -/
  ended : c.result?.isSome → (∀ v ∈ visits setup stages, v.Finished) ∧
    stages.getLast?.map (·.before.now) =
      some (w₀.now + total setup request (visits setup stages))

/-- A call takes the time of its visits. -/
theorem timeLaw_of_course (h : (routine setup).Course w₀ (.start request w₀.now) stages w c) :
    TimeLaw setup request w₀ stages w c := by
  obtain ⟨rfl, htrack, hsendings, hsteps, hended⟩ := kept_of_course h
  obtain ⟨⟨index, hplaced⟩, htimetable, hfinished, hallowed⟩ := htrack.ordered
  constructor
  case placed => exact hplaced.trans (List.take_sublist _ _)
  case sendings => exact hsendings
  case allowed => exact fun v hv => (hallowed v hv).1
  case sendings_le =>
    rw [hsendings, List.length_flatMap]
    refine hplaced.sum_le ?_
    intro v hv
    rw [Visit.sendings, List.length_map]
    exact (hallowed v hv).1
  case timetable => exact htimetable
  case finished => exact hfinished
  case time_eq => exact fun v _ => v.coe_time setup c.request
  case time_le => exact fun v _ => v.time_le setup c.request
  case total_le =>
    refine hplaced.sum_le ?_
    intro v hv
    exact Visit.time_le_longestVisit (hallowed v hv).1 (hallowed v hv).2
  case outcome =>
    intro index attempt since settled hphase
    unfold OnTrack at htrack
    rw [hphase] at htrack
    obtain ⟨before, v, sent, hresting, hvisits, rfl, hsent, rfl, -⟩ := htrack
    refine ⟨v.send sent, sent, ?_, hresting.index_eq, ?_, ?_, rfl, Rpc.Answer.after_settle _ _, ?_,
      ?_⟩
    · rw [hvisits, List.getLast?_concat]
    · simp [Visit.send, hresting.sends]
    · rw [← hresting.sends, Visit.send, List.getElem?_concat_length]
    · exact fun harrives => (Rpc.Answer.settle_of_le harrives).2
    · exact fun hlate => congrArg Rpc.Settled.ending (Rpc.Answer.settle_of_lt hlate)
  case on_time => exact fun out hstep => htrack.now_eq hstep
  case goes_on =>
    intro hresult
    exact ⟨(htrack.wakesAt? hresult).1, fun v hdue => htrack.isSome_step? hresult hdue⟩
  case steps_le => exact (Nat.le_add_right _ _).trans hsteps
  case ended =>
    intro hresult
    refine ⟨?_, hended hresult⟩
    obtain ⟨r, hr⟩ := Option.isSome_iff_exists.mp hresult
    unfold OnTrack at htrack
    rw [result?_eq_some_iff.mp hr] at htrack
    obtain ⟨index, hbehind⟩ := htrack
    exact hbehind.finished

end Call

end Failover
