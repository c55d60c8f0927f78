import Failover.Proofs.Traffic.Itinerary
import Failover.Proofs.Traffic.Step
import Mathlib.Tactic.Common

/-!
# Managers and traffic

A manager runs what its owner waits for and its background prober in a fixed order. Every step of
it is one move of traffic or none, so that what a manager does is one run among the many that a
statement about `Traffic.Run` covers. `Traffic.Shows` says which calls and cycles of the traffic the
manager has in its hands, `Traffic.Shows.drive` carries it along everything that a manager does
until its owner goes on, and `Traffic.Shows.parallel` finds the results of its calls in the run.
-/

namespace Failover

variable {σ : Type} {setup : Setup σ}

/-! ## Tasks and their calls -/

namespace CallTask

/-- Whether the call of a task has begun. -/
def hasBegun : CallTask → Bool
  | .delayed .. => false
  | _ => true

/-- A task is that of a request, and once it has begun it stands at the call with a number. -/
def StandsAt (s : Traffic σ) (request : Rpc.Request) (id : Nat) : CallTask → Prop
  | .delayed _ r => r = request
  | .active c => c.request = request ∧ s.calls[id]? = some c
  | .finished r _ => ∃ c, c.request = request ∧ s.calls[id]? = some c ∧ c.result? = some r

lemma StandsAt.mono {s s' : Traffic σ} {request : Rpc.Request} {id : Nat} {task : CallTask}
    (h : task.StandsAt s request id)
    (hkeep : ∀ c, s.calls[id]? = some c → s'.calls[id]? = some c) :
    task.StandsAt s' request id := by
  cases task with
  | delayed startsAt r => exact h
  | active c => exact ⟨h.1, hkeep c h.2⟩
  | finished r endedAt =>
    obtain ⟨c, hrequest, hc, hresult⟩ := h
    exact ⟨c, hrequest, hkeep c hc, hresult⟩

/-- The call of a task that has begun is in the traffic. -/
lemma StandsAt.lt {s : Traffic σ} {request : Rpc.Request} {id : Nat} {task : CallTask}
    (h : task.StandsAt s request id) (hbegun : task.hasBegun = true) : id < s.calls.length := by
  cases task with
  | delayed startsAt r => cases hbegun
  | active c => exact (List.getElem?_eq_some_iff.mp h.2).1
  | finished r endedAt =>
    obtain ⟨c, -, hc, -⟩ := h
    exact (List.getElem?_eq_some_iff.mp hc).1

/-- The task of a call stands at it, whether the call has just ended or not. -/
lemma standsAt_ofCall {s : Traffic σ} {request : Rpc.Request} {id : Nat} {c : Call} {now : Nat}
    (hrequest : c.request = request) (hc : s.calls[id]? = some c) :
    (ofCall c now).StandsAt s request id := by
  unfold ofCall
  cases hresult : c.result? with
  | some r => exact ⟨c, hrequest, hc, hresult⟩
  | none => exact ⟨hrequest, hc⟩

/-- The first task that can go on makes a step, and the others stay as they are. -/
lemma stepFirst?_eq_some {w next : World σ} {tasks tasks' : List CallTask} {notes : Journal}
    (h : stepFirst? setup w tasks = some (next, tasks', notes)) :
    ∃ i task task', tasks[i]? = some task ∧ task.step? setup w = some (next, task', notes) ∧
      tasks' = tasks.set i task' := by
  induction tasks generalizing tasks' with
  | nil => cases h
  | cons task rest ih =>
    unfold stepFirst? at h
    split at h
    case h_1 hstep =>
      cases h
      exact ⟨0, task, _, rfl, hstep, rfl⟩
    case h_2 =>
      obtain ⟨⟨w', rest', notes'⟩, hrest, heq⟩ := Option.map_eq_some_iff.mp h
      cases heq
      obtain ⟨i, other, other', hi, hstep, rfl⟩ := ih hrest
      exact ⟨i + 1, other, other', hi, hstep, rfl⟩

end CallTask

/-- A step of the prober leaves the world alone, or is a step of one probe of its cycle. -/
lemma Prober.step?_cases {p p' : Prober} {w next : World σ} {notes : Journal}
    (h : p.step? setup w = some (next, p', notes)) :
    (next = w ∧ notes.sendings = [] ∧ ∀ tick c, p'.phase ≠ .cycling tick c) ∨
      (next = w ∧ notes = [] ∧
        ∃ tick, p'.phase = .cycling tick (Cycle.start p.method setup.registry.size)) ∨
      ∃ tick c c' index, p.phase = .cycling tick c ∧
        c.stepAt? setup w index = some (next, c', notes) ∧ p'.phase = .cycling tick c' := by
  cases takes_of_step? h with
  | begin _ hquiet => exact Or.inl ⟨rfl, hquiet.sendings, nofun⟩
  | quit _ _ hquiet => exact Or.inl ⟨rfl, hquiet.sendings, nofun⟩
  | tick => exact Or.inr (Or.inl ⟨rfl, rfl, _, rfl⟩)
  | probe hphase _ hprobe => exact Or.inr (Or.inr ⟨_, _, _, _, hphase, hprobe, rfl⟩)
  | rest _ _ hquiet => exact Or.inl ⟨rfl, hquiet.sendings, nofun⟩

namespace Traffic

/-- The tasks of these requests stand at different calls of the traffic. -/
structure Seats (s : Traffic σ) (requests : List Rpc.Request) (tasks : List CallTask)
    (seat : Nat → Nat) : Prop where
  stands : ∀ (i : Nat) (task : CallTask), tasks[i]? = some task →
    ∃ request, requests[i]? = some request ∧ task.StandsAt s request (seat i)
  apart : ∀ (i j : Nat) (task other : CallTask), tasks[i]? = some task → tasks[j]? = some other →
    task.hasBegun = true → other.hasBegun = true → seat i = seat j → i = j

variable {s s' : Traffic σ} {requests : List Rpc.Request} {tasks : List CallTask} {seat : Nat → Nat}

/-- Where tasks stand depends on nothing but the calls. -/
lemma Seats.of_calls_eq (h : s.Seats requests tasks seat) (hcalls : s'.calls = s.calls) :
    s'.Seats requests tasks seat where
  stands := by
    intro i task hi
    obtain ⟨request, hrequest, htask⟩ := h.stands i task hi
    exact ⟨request, hrequest, htask.mono fun c hc => by rw [hcalls, hc]⟩
  apart := h.apart

/-- One task goes on, perhaps at a seat of its own, and what stands at other seats stays there. -/
lemma Seats.set {task' : CallTask} {request : Rpc.Request} (h : s.Seats requests tasks seat)
    (i id : Nat) (hrequest : requests[i]? = some request) (hstands : task'.StandsAt s' request id)
    (hfree : ∀ j other, j ≠ i → tasks[j]? = some other → other.hasBegun = true → seat j ≠ id)
    (hkeep : ∀ j c, j ≠ id → s.calls[j]? = some c → s'.calls[j]? = some c) :
    s'.Seats requests (tasks.set i task') fun j => if j = i then id else seat j where
  stands := by
    intro j other hj
    by_cases hij : j = i
    · subst hij
      obtain ⟨hlt, hval⟩ := List.getElem?_eq_some_iff.mp hj
      rw [List.getElem_set_self] at hval
      subst hval
      rw [if_pos rfl]
      exact ⟨request, hrequest, hstands⟩
    · rw [List.getElem?_set_ne (Ne.symm hij)] at hj
      rw [if_neg hij]
      obtain ⟨r, hr, hother⟩ := h.stands j other hj
      refine ⟨r, hr, ?_⟩
      cases hbegun : other.hasBegun with
      | true => exact hother.mono fun c hc => hkeep _ c (hfree j other hij hj hbegun) hc
      | false =>
        cases other with
        | delayed startsAt r => exact hother
        | active c => cases hbegun
        | finished r endedAt => cases hbegun
  apart := by
    intro j k one other hj hk hone hother heq
    by_cases hij : j = i <;> by_cases hik : k = i
    · rw [hij, hik]
    · rw [List.getElem?_set_ne (Ne.symm hik)] at hk
      rw [if_pos hij, if_neg hik] at heq
      exact absurd heq.symm (hfree k other hik hk hother)
    · rw [List.getElem?_set_ne (Ne.symm hij)] at hj
      rw [if_neg hij, if_pos hik] at heq
      exact absurd heq (hfree j one hij hj hone)
    · rw [List.getElem?_set_ne (Ne.symm hij)] at hj
      rw [List.getElem?_set_ne (Ne.symm hik)] at hk
      rw [if_neg hij, if_neg hik] at heq
      exact h.apart j k one other hj hk hone hother heq

/-- A step of a task is a move: its call begins, or makes a step. -/
lemma Seats.step {i : Nat} {task task' : CallTask} {next : World σ} {notes : Journal}
    (h : s.Seats requests tasks seat) (hi : tasks[i]? = some task)
    (hstep : task.step? setup s.world = some (next, task', notes)) :
    ∃ m s' seat', s.next? setup m = some (s', notes) ∧ s'.world = next ∧ s'.cycles = s.cycles ∧
      s'.Seats requests (tasks.set i task') seat' := by
  obtain ⟨request, hrequest, hstands⟩ := h.stands i task hi
  cases task with
  | delayed startsAt r =>
    simp only [CallTask.step?] at hstep
    split at hstep
    case isFalse => cases hstep
    case isTrue =>
      cases hstep
      obtain rfl : r = request := hstands
      refine ⟨.call r, _, _, rfl, rfl, rfl, h.set i s.calls.length hrequest ?_ ?_ ?_⟩
      · exact ⟨rfl, List.getElem?_concat_length⟩
      · intro j other hij hj hbegun
        obtain ⟨_, -, hother⟩ := h.stands j other hj
        exact Nat.ne_of_lt (hother.lt hbegun)
      · intro j c hne hc
        exact (List.getElem?_append_left (List.getElem?_eq_some_iff.mp hc).1).trans hc
  | active c =>
    obtain ⟨⟨w, c', notes'⟩, hcall, heq⟩ := Option.map_eq_some_iff.mp hstep
    cases heq
    obtain ⟨hsame, hc⟩ := hstands
    have hnext := Call.request_of_takes (Call.takes_of_step? hcall)
    have hself : (s.calls.set (seat i) c')[seat i]? = some c' :=
      List.getElem?_set_self (List.getElem?_eq_some_iff.mp hc).1
    refine ⟨.advance (seat i), _, _, next?_advance_of_step? hc hcall, rfl, rfl,
      h.set i (seat i) hrequest ?_ ?_ ?_⟩
    · exact CallTask.standsAt_ofCall (hnext.trans hsame) hself
    · intro j other hij hj hbegun heq
      exact hij (h.apart j i other _ hj hi hbegun rfl heq)
    · intro j d hne hd
      exact (List.getElem?_set_ne (Ne.symm hne)).trans hd
  | finished r endedAt => cases hstep

/-! ## What a manager has in its hands -/

/-- The traffic is what a manager and its owner's activity do: the world is the same, and the calls
and cycles in progress are calls and cycles of the traffic. -/
structure Shows (s : Traffic σ) (m : Manager σ) (f : Foreground) (requests : List Rpc.Request) :
    Prop where
  world : s.world = m.world
  calls : ∀ tasks, f = .calls tasks → ∃ seat, s.Seats requests tasks seat
  cycles : ∃ i j : Nat, (∀ c, f = .cycle c → s.cycles[i]? = some c ∧ i ≠ j) ∧
    ∀ p tick c, m.prober = some p → p.phase = .cycling tick c → s.cycles[j]? = some c

variable {m m' : Manager σ} {f f' : Foreground} {notes : Journal}

/-- The tasks of the manager keep their seats as long as no call moves. -/
lemma Shows.seats_of_calls_eq (h : s.Shows m f requests) (hcalls : s'.calls = s.calls)
    (tasks : List CallTask) (hf : f = .calls tasks) : ∃ seat, s'.Seats requests tasks seat := by
  obtain ⟨seat, hseats⟩ := h.calls tasks hf
  exact ⟨seat, hseats.of_calls_eq hcalls⟩

/-- A step of the activity is a move. -/
lemma Shows.stepForeground {next : World σ} (h : s.Shows m f requests)
    (hstep : f.step? m.setup m.world = some (next, f', notes)) :
    ∃ move s', s.next? m.setup move = some (s', notes) ∧
      s'.Shows { m with world := next } f' requests := by
  obtain ⟨i, j, hforeground, hprober⟩ := h.cycles
  rw [← h.world] at hstep
  cases f with
  | calls tasks =>
    obtain ⟨⟨w, tasks', notes'⟩, hfirst, heq⟩ := Option.map_eq_some_iff.mp hstep
    cases heq
    obtain ⟨k, task, task', hk, htask, rfl⟩ := CallTask.stepFirst?_eq_some hfirst
    obtain ⟨seat, hseats⟩ := h.calls tasks rfl
    obtain ⟨move, s', seat', hnext, hworld, hcycles, hseats'⟩ := hseats.step hk htask
    refine ⟨move, s', hnext, hworld, ?_, i, j, nofun, ?_⟩
    · intro other heq
      cases heq
      exact ⟨seat', hseats'⟩
    · rw [hcycles]
      exact hprober
  | cycle c =>
    obtain ⟨⟨w, c', notes'⟩, hcycle, heq⟩ := Option.map_eq_some_iff.mp hstep
    cases heq
    obtain ⟨index, -, hprobe⟩ := Option.bind_eq_some_iff.mp hcycle
    obtain ⟨hi, hij⟩ := hforeground c rfl
    refine ⟨.probe i index, _, next?_probe_of_stepAt? hi hprobe, rfl, nofun, i, j, ?_, ?_⟩
    · intro d heq
      cases heq
      exact ⟨List.getElem?_set_self (List.getElem?_eq_some_iff.mp hi).1, hij⟩
    · intro p tick d hp hphase
      exact (List.getElem?_set_ne hij).trans (hprober p tick d hp hphase)
  | sleep endsAt => cases hstep
  | join endsAt => cases hstep

/-- A step of the prober is a move, or none if it only makes up its mind. -/
lemma Shows.stepProber (h : s.Shows m f requests) (hstep : m.stepProber? = some (m', notes)) :
    ∃ beats s', Run m.setup s beats s' ∧ s'.Shows m' f requests ∧ m'.setup = m.setup ∧
      (Traffic.notes beats).sendings = notes.sendings := by
  obtain ⟨i, j, hforeground, hprober⟩ := h.cycles
  unfold Manager.stepProber? at hstep
  split at hstep
  case h_1 => cases hstep
  case h_2 p hp =>
    obtain ⟨⟨w, p', notes'⟩, hstep, heq⟩ := Option.map_eq_some_iff.mp hstep
    cases heq
    rcases Prober.step?_cases hstep with
      ⟨rfl, hquiet, hrests⟩ | ⟨rfl, rfl, tick, hbegins⟩ |
        ⟨tick, c, c', index, hphase, hprobe, hgoes⟩
    · refine ⟨[], s, .nil, ⟨h.world, h.calls, i, j, hforeground, ?_⟩, rfl, hquiet.symm⟩
      intro q t d hq hphase
      cases hq
      exact absurd hphase (hrests t d)
    · refine ⟨_, _, Run.nil.snoc (m := .cycle p.method) rfl,
        ⟨h.world, h.seats_of_calls_eq rfl, i, s.cycles.length, ?_, ?_⟩, rfl, rfl⟩
      · intro c hc
        have hlt := (List.getElem?_eq_some_iff.mp (hforeground c hc).1).1
        exact ⟨(List.getElem?_append_left hlt).trans (hforeground c hc).1, Nat.ne_of_lt hlt⟩
      · intro q t d hq hphase
        cases hq
        cases hbegins.symm.trans hphase
        exact List.getElem?_concat_length
    · have hj := hprober p tick c hp hphase
      rw [← h.world] at hprobe
      refine ⟨_, _, Run.nil.snoc (next?_probe_of_stepAt? hj hprobe),
        ⟨rfl, h.seats_of_calls_eq rfl, i, j, ?_, ?_⟩, rfl, by simp [Traffic.notes]⟩
      · intro d hd
        obtain ⟨hi, hij⟩ := hforeground d hd
        exact ⟨(List.getElem?_set_ne (Ne.symm hij)).trans hi, hij⟩
      · intro q t d hq hphase'
        cases hq
        cases hgoes.symm.trans hphase'
        exact List.getElem?_set_self (List.getElem?_eq_some_iff.mp hj).1

/-- When nothing is due, time passes. -/
lemma Shows.moveOn (h : s.Shows m f requests) (hmove : m.moveOn? f = some m') :
    ∃ millis s', s.next? m.setup (.elapse millis) = some (s', []) ∧ s'.Shows m' f requests ∧
      m'.setup = m.setup := by
  unfold Manager.moveOn? at hmove
  split at hmove
  case h_2 => cases hmove
  case h_1 t _ =>
    split at hmove
    case isFalse => cases hmove
    case isTrue hlt =>
      cases hmove
      have hnow : m.world.now + (t - m.world.now) = t := Nat.add_sub_of_le (Nat.le_of_lt hlt)
      refine ⟨t - m.world.now, _, rfl, ⟨?_, h.seats_of_calls_eq rfl, h.cycles⟩, rfl⟩
      simp only [h.world, hnow, Manager.setNow]

/-- A step of a manager is a move of the traffic or none, with the same sendings. -/
theorem Shows.step (h : s.Shows m f requests) (hstep : m.step? f = some (m', f', notes)) :
    ∃ beats s', Run m.setup s beats s' ∧ s'.Shows m' f' requests ∧ m'.setup = m.setup ∧
      (Traffic.notes beats).sendings = notes.sendings := by
  unfold Manager.step? at hstep
  split at hstep
  case isTrue => cases hstep
  case isFalse hgoes =>
    split at hstep
    case h_1 next hnow =>
      cases hstep
      unfold Manager.stepNow? at hnow
      rw [if_neg hgoes] at hnow
      split at hnow
      case h_1 w f'' notes' hforeground =>
        cases hnow
        obtain ⟨move, s', hnext, hshows⟩ := h.stepForeground hforeground
        exact ⟨_, s', Run.nil.snoc hnext, hshows, rfl, by simp [Traffic.notes]⟩
      case h_2 =>
        obtain ⟨⟨m'', notes'⟩, hprober, heq⟩ := Option.map_eq_some_iff.mp hnow
        cases heq
        exact h.stepProber hprober
    case h_2 =>
      obtain ⟨m'', hmove, heq⟩ := Option.map_eq_some_iff.mp hstep
      cases heq
      obtain ⟨millis, s', hnext, hshows, hsetup⟩ := h.moveOn hmove
      exact ⟨_, s', Run.nil.snoc hnext, hshows, hsetup, by simp [Traffic.notes]⟩

/-- Two runs of which the second begins where the first ends are one run. -/
lemma Run.append {s'' : Traffic σ} {beats more : List (Beat σ)} (h : Run setup s beats s')
    (hmore : Run setup s' more s'') : Run setup s (beats ++ more) s'' := by
  induction hmore with
  | nil => rwa [List.append_nil]
  | snoc _ hnext ih =>
    rw [← List.append_assoc]
    exact ih.snoc hnext

/-- Everything that a manager does until its owner goes on is a run of the traffic. -/
theorem Shows.drive {fuel : Nat} {past : List Note} (h : s.Shows m f requests)
    (hdrive : m.drive fuel f past = (m', f', notes)) :
    ∃ beats s', Run m.setup s beats s' ∧ s'.Shows m' f' requests ∧
      notes.sendings = Journal.sendings past.reverse ++ (Traffic.notes beats).sendings := by
  induction fuel generalizing s m f past with
  | zero =>
    cases hdrive
    exact ⟨[], s, .nil, h, (List.append_nil _).symm⟩
  | succ fuel ih =>
    unfold Manager.drive at hdrive
    split at hdrive
    case h_1 =>
      cases hdrive
      exact ⟨[], s, .nil, h, (List.append_nil _).symm⟩
    case h_2 m₁ f₁ notes₁ hstep =>
      obtain ⟨beats, s₁, hrun, hshows, hsetup, hsent⟩ := h.step hstep
      obtain ⟨more, s₂, hrest, hend, hnotes⟩ := ih hshows hdrive
      rw [hsetup] at hrest
      refine ⟨beats ++ more, s₂, hrun.append hrest, hend, ?_⟩
      simp [hnotes, ← hsent, Traffic.notes]

/-- Calls that have not begun can be given to a manager at any time. -/
lemma Shows.give (h : s.Shows m f requests) (batch : List (Nat × Rpc.Request)) :
    s.Shows m (.calls (batch.map fun r => .delayed (m.world.now + r.1) r.2))
      (batch.map Prod.snd) := by
  obtain ⟨i, j, -, hprober⟩ := h.cycles
  refine ⟨h.world, ?_, i, j, nofun, hprober⟩
  intro tasks heq
  cases heq
  refine ⟨id, ?_, ?_⟩
  · intro k task hk
    rw [List.getElem?_map] at hk
    obtain ⟨r, hr, rfl⟩ := Option.map_eq_some_iff.mp hk
    exact ⟨r.2, by rw [List.getElem?_map, hr, Option.map_some], rfl⟩
  · intro k l task other _ _ _ _ heq
    exact heq

/-- Calls that a manager runs side by side are calls of a run, which has their results and sends
what the manager sends. -/
theorem Shows.parallel {batch : List (Nat × Rpc.Request)} {results : List (CallResult × Nat)}
    (h : s.Shows m f requests) (hrun : m.parallel batch = (results, m', notes)) :
    ∃ beats s', Run m.setup s beats s' ∧ notes.sendings = (Traffic.notes beats).sendings ∧
      ∀ r ∈ results.map Prod.fst, ∃ c ∈ s'.calls,
        c.request ∈ batch.map Prod.snd ∧ c.result? = some r := by
  dsimp only [Manager.parallel] at hrun
  generalize hdrive : m.await _ = out at hrun
  obtain ⟨m₁, f₁, notes₁⟩ := out
  cases hrun
  unfold Manager.await at hdrive
  obtain ⟨beats, s', hbeats, hshows, hsent⟩ := (h.give batch).drive hdrive
  refine ⟨beats, s', hbeats, hsent, ?_⟩
  intro r hr
  obtain ⟨⟨r', t⟩, hmem, rfl⟩ := List.mem_map.mp hr
  cases f₁ with
  | calls tasks =>
    obtain ⟨task, htask, hresult⟩ := List.mem_filterMap.mp hmem
    obtain ⟨k, hk⟩ := List.mem_iff_getElem?.mp htask
    obtain ⟨seat, hseats⟩ := hshows.calls tasks rfl
    obtain ⟨request, hrequest, hstands⟩ := hseats.stands k task hk
    cases task with
    | delayed startsAt q => cases hresult
    | active c => cases hresult
    | finished q endedAt =>
      cases hresult
      obtain ⟨c, hsame, hc, hend⟩ := hstands
      refine ⟨c, List.mem_of_getElem? hc, ?_, hend⟩
      rw [hsame]
      exact List.mem_of_getElem? hrequest
  | cycle c => cases hmem
  | sleep endsAt => cases hmem
  | join endsAt => cases hmem

end Traffic

end Failover
