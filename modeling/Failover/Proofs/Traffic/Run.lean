import Failover.Manager
import Mathlib.Data.List.Induction
import Mathlib.Tactic.Common

/-!
# Traffic

`Traffic` is everything that goes on over one world at a moment: calls and probe cycles, any number
of each. A `Move` is what may happen next. Nothing is said about who moves when: a call or a probe
moves whenever it does not have to wait, reports are asked for at any time, and time passes as it
likes, so that a `Traffic.Run` is any interleaving at all. What the background prober does are the
cycles of a run, and a cycle or a call that is dropped is one that moves no more.

A run keeps its `Beat`s, the moves with the traffic before and after them. Whatever a statement
needs to know about the past of a run is a function of its beats.
-/

namespace Failover

variable {σ : Type}

/-! ## A manager that was just built -/

/-- The manager of a registry before anything happened. -/
def Manager.fresh (registry : Registry) (settings : Settings) (transport : Rpc.Transport σ)
    (wire : σ) (clock : Clock) (draw : Nat → Nat) : Manager σ where
  setup :=
    { registry := registry
      policy := RetryPolicy.new settings.maxRetries settings.backoffUnit
      transport := transport
      clock := clock
      draw := draw }
  settings := settings
  world :=
    { now := 0
      tracker := Tracker.new registry.size settings.breakerThreshold settings.breakerTimeout
      wire := wire
      drawn := 0 }
  prober := none

/-- Building succeeds exactly for settings and endpoints that pass their checks, with a manager
before anything happened. -/
lemma Manager.build_eq_ok_iff {configs : List EndpointConfig} {settings : Settings}
    {transport : Rpc.Transport σ} {wire : σ} {clock : Clock} {draw : Nat → Nat} {m : Manager σ}
    {notes : Journal} :
    build configs settings transport wire clock draw = .ok (m, notes) ↔
      settings.validate = .ok () ∧ ∃ registry, Registry.ofConfigs configs = .ok registry ∧
        fresh registry settings transport wire clock draw = m ∧
        [.event (.managerInitialized registry.size registry.primary.displayName)] = notes := by
  unfold build
  cases settings.validate with
  | error e => simp
  | ok u =>
    cases Registry.ofConfigs configs with
    | error e => simp
    | ok registry => simp [fresh]

/-- Endpoints that are configured in the order of their priorities stay in this order. -/
lemma Registry.ofConfigs_of_ordered {configs : List EndpointConfig} (hne : configs ≠ [])
    (hordered : (configs.map Endpoint.ofConfig).Pairwise fun a b => a.priority ≤ b.priority) :
    ofConfigs configs = .ok ⟨configs.map Endpoint.ofConfig, by simpa using hne, hordered⟩ := by
  have hsort : sort (configs.map Endpoint.ofConfig) = configs.map Endpoint.ofConfig :=
    List.mergeSort_of_pairwise (hordered.imp (by simp [precedes]))
  unfold ofConfigs
  simp only [dif_neg hne, hsort]

/-! ## Moves -/

/-- What goes on over one world at a moment. -/
structure Traffic (σ : Type) where
  world : World σ
  calls : List Call
  cycles : List Cycle

/-- What may happen next. -/
inductive Move (σ : Type) where
  /-- A call begins. -/
  | call (request : Rpc.Request)
  /-- A probe cycle begins. -/
  | cycle (method : String)
  /-- The call with this number makes a step. -/
  | advance (id : Nat)
  /-- One probe of the cycle with this number makes a step. -/
  | probe (id index : Nat)
  /-- Somebody asks for a report. -/
  | report
  /-- Time passes. -/
  | elapse (millis : Nat)
  /-- The transport changes by itself. -/
  | rewire (change : σ → σ)

/-- Whether a move is one of the cycle with a number. -/
def Move.probes (id : Nat) : Move σ → Bool
  | .probe i _ => i = id
  | _ => false

lemma Move.probes_iff {id : Nat} {m : Move σ} :
    m.probes id = true ↔ ∃ index, m = .probe id index := by
  cases m <;> simp [Move.probes]

namespace Traffic

/-- A world in which nothing goes on. -/
def idle (w : World σ) : Traffic σ := ⟨w, [], []⟩

/-- The traffic in which a call has made a step. -/
def stepCall (setup : Setup σ) (s : Traffic σ) (id : Nat) (c : Call) :
    Option (Traffic σ × Journal) :=
  (c.step? setup s.world).map fun (w, c, notes) =>
    ({ s with world := w, calls := s.calls.set id c }, notes)

/-- The traffic in which a probe has made a step. -/
def stepProbe (setup : Setup σ) (s : Traffic σ) (id index : Nat) (c : Cycle) :
    Option (Traffic σ × Journal) :=
  (c.stepAt? setup s.world index).map fun (w, c, notes) =>
    ({ s with world := w, cycles := s.cycles.set id c }, notes)

/-- The traffic after a move and what it leaves in the journal, unless the move is not possible. -/
def next? (setup : Setup σ) (s : Traffic σ) : Move σ → Option (Traffic σ × Journal)
  | .call request =>
    some ({ s with calls := s.calls ++ [Call.start request s.world.now] }, [])
  | .cycle method =>
    some ({ s with cycles := s.cycles ++ [Cycle.start method setup.registry.size] }, [])
  | .advance id => s.calls[id]?.bind (s.stepCall setup id)
  | .probe id index => s.cycles[id]?.bind (s.stepProbe setup id index)
  | .report =>
    let (_, w, notes) := s.world.snapshot setup
    some ({ s with world := w }, notes)
  | .elapse millis => some ({ s with world := { s.world with now := s.world.now + millis } }, [])
  | .rewire change => some ({ s with world := { s.world with wire := change s.world.wire } }, [])

/-- What the clocks show. -/
def reading (setup : Setup σ) (s : Traffic σ) : Reading := s.world.reading setup

end Traffic

/-- A move with the traffic before and after it and what it left in the journal. -/
structure Beat (σ : Type) where
  before : Traffic σ
  move : Move σ
  after : Traffic σ
  notes : Journal

namespace Traffic

/-- The runs from a start: their beats and the traffic that they lead to. -/
inductive Run (setup : Setup σ) (start : Traffic σ) : List (Beat σ) → Traffic σ → Prop
  | nil : Run setup start [] start
  | snoc {beats : List (Beat σ)} {s : Traffic σ} {m : Move σ} {s' : Traffic σ} {notes : Journal} :
    Run setup start beats s → s.next? setup m = some (s', notes) →
      Run setup start (beats ++ [⟨s, m, s', notes⟩]) s'

variable {setup : Setup σ} {start s s' : Traffic σ} {beats : List (Beat σ)} {notes : Journal}

/-- Make moves one after the other and leave out those that are not possible when their turn comes:
the beats and the traffic at the end. -/
def play (setup : Setup σ) : List (Beat σ) × Traffic σ → List (Move σ) →
    List (Beat σ) × Traffic σ
  | past, [] => past
  | (beats, s), m :: moves =>
    match s.next? setup m with
    | some (s', notes) => play setup (beats ++ [⟨s, m, s', notes⟩], s') moves
    | none => play setup (beats, s) moves

/-- Moves that are made one after the other continue a run. -/
lemma Run.play (h : Run setup start beats s) (moves : List (Move σ)) :
    Run setup start (play setup (beats, s) moves).1 (play setup (beats, s) moves).2 := by
  induction moves generalizing beats s with
  | nil => exact h
  | cons m moves ih =>
    unfold Traffic.play
    split
    case h_1 hnext => exact ih (h.snoc hnext)
    case h_2 => exact ih h

/-! ## What a move changes -/

/-- A step of a call replaces this call and no other. -/
lemma next?_advance_eq_some {id : Nat} (h : s.next? setup (.advance id) = some (s', notes)) :
    ∃ c c', s.calls[id]? = some c ∧ c.step? setup s.world = some (s'.world, c', notes) ∧
      s'.calls = s.calls.set id c' ∧ s'.cycles = s.cycles := by
  obtain ⟨c, hc, hstep⟩ := Option.bind_eq_some_iff.mp h
  obtain ⟨⟨w, c', notes'⟩, hout, heq⟩ := Option.map_eq_some_iff.mp hstep
  cases heq
  exact ⟨c, c', hc, hout, rfl, rfl⟩

/-- A call that can make a step can make it in the traffic. -/
lemma next?_advance_of_step? {id : Nat} {c c' : Call} {w : World σ} (hc : s.calls[id]? = some c)
    (hstep : c.step? setup s.world = some (w, c', notes)) :
    s.next? setup (.advance id) =
      some ({ s with world := w, calls := s.calls.set id c' }, notes) := by
  simp [next?, stepCall, hc, hstep]

/-- A step of a probe replaces its cycle and no other. -/
lemma next?_probe_eq_some {id index : Nat}
    (h : s.next? setup (.probe id index) = some (s', notes)) :
    ∃ c c', s.cycles[id]? = some c ∧ c.stepAt? setup s.world index = some (s'.world, c', notes) ∧
      s'.cycles = s.cycles.set id c' ∧ s'.calls = s.calls := by
  obtain ⟨c, hc, hstep⟩ := Option.bind_eq_some_iff.mp h
  obtain ⟨⟨w, c', notes'⟩, hout, heq⟩ := Option.map_eq_some_iff.mp hstep
  cases heq
  exact ⟨c, c', hc, hout, rfl, rfl⟩

/-- A probe that can make a step can make it in the traffic. -/
lemma next?_probe_of_stepAt? {id index : Nat} {c c' : Cycle} {w : World σ}
    (hc : s.cycles[id]? = some c)
    (hstep : c.stepAt? setup s.world index = some (w, c', notes)) :
    s.next? setup (.probe id index) =
      some ({ s with world := w, cycles := s.cycles.set id c' }, notes) := by
  simp [next?, stepProbe, hc, hstep]

/-- What a move does to the call with a number: the call makes a step, or begins, or stays as it is.
-/
lemma calls_of_next? {m : Move σ} {id : Nat} {c' : Call} (h : s.next? setup m = some (s', notes))
    (hc' : s'.calls[id]? = some c') :
    (∃ c, m = .advance id ∧ s.calls[id]? = some c ∧
        c.step? setup s.world = some (s'.world, c', notes)) ∨
      (∃ request, m = .call request ∧ s.calls.length = id ∧
        c' = Call.start request s.world.now) ∨
      (m ≠ .advance id ∧ s.calls[id]? = some c') := by
  cases m with
  | call request =>
    cases h
    by_cases hlt : id < s.calls.length
    · rw [List.getElem?_append_left hlt] at hc'
      exact Or.inr (Or.inr ⟨nofun, hc'⟩)
    · rw [List.getElem?_append_right (Nat.le_of_not_lt hlt)] at hc'
      have hid : s.calls.length = id := by
        have hone := (List.getElem?_eq_some_iff.mp hc').1
        rw [List.length_singleton] at hone
        omega
      rw [hid, Nat.sub_self] at hc'
      exact Or.inr (Or.inl ⟨request, rfl, hid, (Option.some.inj hc').symm⟩)
  | advance i =>
    obtain ⟨c, d, hc, hstep, hcalls, -⟩ := next?_advance_eq_some h
    rw [hcalls] at hc'
    by_cases hi : i = id
    · subst hi
      rw [List.getElem?_set_self (List.getElem?_eq_some_iff.mp hc).1] at hc'
      obtain rfl := Option.some.inj hc'
      exact Or.inl ⟨c, rfl, hc, hstep⟩
    · rw [List.getElem?_set_ne hi] at hc'
      exact Or.inr (Or.inr ⟨fun hm => hi (Move.advance.inj hm), hc'⟩)
  | probe i index =>
    obtain ⟨-, -, -, -, -, hcalls⟩ := next?_probe_eq_some h
    rw [hcalls] at hc'
    exact Or.inr (Or.inr ⟨nofun, hc'⟩)
  | cycle method =>
    cases h
    exact Or.inr (Or.inr ⟨nofun, hc'⟩)
  | report =>
    cases h
    exact Or.inr (Or.inr ⟨nofun, hc'⟩)
  | elapse millis =>
    cases h
    exact Or.inr (Or.inr ⟨nofun, hc'⟩)
  | rewire change =>
    cases h
    exact Or.inr (Or.inr ⟨nofun, hc'⟩)

/-- What a move does to a cycle that has begun: one of its probes makes a step, or it stays as it
is. -/
lemma cycle_of_next? {m : Move σ} {id : Nat} {c : Cycle} (hc : s.cycles[id]? = some c)
    (h : s.next? setup m = some (s', notes)) :
    (∃ index c', m = .probe id index ∧ c.stepAt? setup s.world index = some (s'.world, c', notes) ∧
        s'.cycles[id]? = some c') ∨
      ((∀ index, m ≠ .probe id index) ∧ s'.cycles[id]? = some c) := by
  cases m with
  | probe i index =>
    obtain ⟨d, d', hd, hstep, hcycles, -⟩ := next?_probe_eq_some h
    rw [hcycles]
    by_cases hi : i = id
    · subst hi
      obtain rfl := Option.some.inj (hc.symm.trans hd)
      exact Or.inl ⟨index, d', rfl, hstep,
        List.getElem?_set_self (List.getElem?_eq_some_iff.mp hc).1⟩
    · refine Or.inr ⟨fun _ hm => hi (Move.probe.inj hm).1, ?_⟩
      rw [List.getElem?_set_ne hi, hc]
  | cycle method =>
    cases h
    refine Or.inr ⟨nofun, ?_⟩
    exact (List.getElem?_append_left (List.getElem?_eq_some_iff.mp hc).1).trans hc
  | advance i =>
    obtain ⟨-, -, -, -, -, hcycles⟩ := next?_advance_eq_some h
    exact Or.inr ⟨nofun, by rw [hcycles, hc]⟩
  | call request =>
    cases h
    exact Or.inr ⟨nofun, hc⟩
  | report =>
    cases h
    exact Or.inr ⟨nofun, hc⟩
  | elapse millis =>
    cases h
    exact Or.inr ⟨nofun, hc⟩
  | rewire change =>
    cases h
    exact Or.inr ⟨nofun, hc⟩

/-- No move takes a call away. -/
lemma length_calls_of_next? {m : Move σ} (h : s.next? setup m = some (s', notes)) :
    s.calls.length ≤ s'.calls.length := by
  cases m with
  | call request =>
    cases h
    simp
  | advance id =>
    obtain ⟨c, c', -, -, hcalls, -⟩ := next?_advance_eq_some h
    simp [hcalls]
  | probe id index =>
    obtain ⟨-, -, -, -, -, hcalls⟩ := next?_probe_eq_some h
    simp [hcalls]
  | cycle method =>
    cases h
    exact Nat.le_refl _
  | report =>
    cases h
    exact Nat.le_refl _
  | elapse millis =>
    cases h
    exact Nat.le_refl _
  | rewire change =>
    cases h
    exact Nat.le_refl _

/-! ## Runs and their prefixes -/

/-- A run ends with its last beat. -/
lemma run_concat_iff {b : Beat σ} :
    Run setup start (beats ++ [b]) s ↔
      Run setup start beats b.before ∧ b.before.next? setup b.move = some (b.after, b.notes) ∧
        b.after = s := by
  constructor
  · intro h
    generalize hall : beats ++ [b] = all at h
    cases h with
    | nil => simp at hall
    | snoc hrun hnext =>
      obtain ⟨rfl, hb⟩ := List.append_inj' hall rfl
      cases hb
      exact ⟨hrun, hnext, rfl⟩
  · rintro ⟨hrun, hnext, rfl⟩
    exact hrun.snoc hnext

/-- A run can be cut at any of its beats. -/
lemma Run.cut {before : List (Beat σ)} {b : Beat σ} {later : List (Beat σ)}
    (h : Run setup start (before ++ b :: later) s) :
    Run setup start before b.before ∧
      b.before.next? setup b.move = some (b.after, b.notes) ∧
      Run setup start (before ++ [b]) b.after := by
  induction later using List.reverseRecOn generalizing s with
  | nil =>
    obtain ⟨hrun, hnext, -⟩ := run_concat_iff.mp h
    exact ⟨hrun, hnext, hrun.snoc hnext⟩
  | append_singleton later x ih =>
    rw [← List.cons_append, ← List.append_assoc] at h
    exact ih (run_concat_iff.mp h).1

/-- What holds after a beat and is kept by every move holds at the end of the run. -/
lemma Run.after_beat {P : Traffic σ → Prop} {before : List (Beat σ)} {b : Beat σ}
    {later : List (Beat σ)} (h : Run setup start (before ++ b :: later) s) (hb : P b.after)
    (hkeep : ∀ s m s' notes, P s → s.next? setup m = some (s', notes) → P s') : P s := by
  induction later using List.reverseRecOn generalizing s with
  | nil =>
    obtain ⟨-, -, rfl⟩ := run_concat_iff.mp h
    exact hb
  | append_singleton later x ih =>
    rw [← List.cons_append, ← List.append_assoc] at h
    obtain ⟨hrun, hnext, rfl⟩ := run_concat_iff.mp h
    exact hkeep _ _ _ _ (ih hrun) hnext

end Traffic

end Failover
