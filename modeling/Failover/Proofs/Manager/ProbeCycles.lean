import Failover.Proofs.Manager.Lifecycle
import Failover.Proofs.Prober.Turns
import Failover.Proofs.Traffic.Schedule
import Mathlib.Data.List.Chain

/-!
# The probe cycles of the background prober

While the background prober runs a cycle its owner may do anything: run calls, ask for reports,
probe on demand. None of it takes the cycle out of its course (`Manager.ProbeCycle`), and time does
not pass beyond a moment at which one of its probes can go on. So each cycle takes the turns that
`Cycle.Ran` tells.

Faults are taken in by the cycle as a whole. One that ends a probe ends all of the cycle with it:
probes that have not set out yet do not, and ends that are still on their way are never taken in.
What came before it stays.
-/

namespace Failover

open Time

variable {σ : Type}

/-! ## Time -/

/-- No step of an activity takes time. -/
lemma Foreground.now_of_step? {setup : Setup σ} {w : World σ} {f : Foreground}
    {out : World σ × Foreground × Journal} (h : f.step? setup w = some out) :
    out.1.now = w.now := by
  cases f with
  | calls tasks =>
    obtain ⟨⟨next, tasks', notes⟩, hfirst, rfl⟩ := Option.map_eq_some_iff.mp h
    obtain ⟨i, task, task', -, hstep, -⟩ := CallTask.stepFirst?_eq_some hfirst
    cases task with
    | delayed startsAt request =>
      simp only [CallTask.step?] at hstep
      split at hstep
      case isTrue =>
        cases hstep
        rfl
      case isFalse => cases hstep
    | active c =>
      obtain ⟨⟨next', c', notes'⟩, hcall, heq⟩ := Option.map_eq_some_iff.mp hstep
      cases heq
      exact Call.now_of_step? hcall
    | finished result endedAt => cases hstep
  | cycle c =>
    obtain ⟨⟨next, c', notes⟩, hcycle, rfl⟩ := Option.map_eq_some_iff.mp h
    obtain ⟨i, -, hat⟩ := Option.bind_eq_some_iff.mp hcycle
    exact Cycle.now_of_stepAt? hat
  | sleep endsAt => cases h
  | join endsAt => cases h

variable {m m' n : Manager σ} {f f' : Foreground} {x : Stride σ} {setup : Setup σ}
  {method : String} {start : Nat} {turns : List Cycle.Turn}

/-- The earlier of two times is no later than the second. -/
lemma le_of_earliest? {s? : Option Nat} {t u : Nat} (h : earliest? s? (some u) = some t) :
    t ≤ u := by
  cases s? with
  | none => exact (Option.some.inj h).ge
  | some s =>
    cases h
    exact Nat.min_le_right s u

namespace Manager

/-! ## Strides one after the other -/

/-- The cycle that the background prober is in. -/
def cycle? (m : Manager σ) : Option Cycle :=
  m.prober.bind fun p =>
    match p.phase with
    | .cycling _ c => some c
    | _ => none

/-- Nothing happens from one moment of a manager to another that takes time or begins a cycle: at
most its owner does something without waiting. -/
structure Rests (m n : Manager σ) : Prop where
  setup : n.setup = m.setup
  now : n.world.now = m.world.now
  cycle : ∀ c, n.cycle? = some c → m.cycle? = some c

/-- Strides that happen one after the other. -/
structure Course (xs : List (Stride σ)) : Prop where
  makes : ∀ x ∈ xs, ∃ f f', x.before.Makes f x f'
  rests : xs.IsChain fun x y => x.after.Rests y.before

/-- A manager that does not change rests. -/
lemma Rests.refl (m : Manager σ) : m.Rests m := ⟨rfl, rfl, fun _ h => h⟩

/-- Resting twice is resting. -/
lemma Rests.trans (h : m.Rests m') (h' : m'.Rests n) : m.Rests n :=
  ⟨h'.setup.trans h.setup, h'.now.trans h.now, fun c hc => h.cycle c (h'.cycle c hc)⟩

/-- The running cycle is that of a prober in its cycling phase. -/
lemma cycle?_eq_some_iff {c : Cycle} :
    m.cycle? = some c ↔ ∃ p tick, m.prober = some p ∧ p.phase = .cycling tick c := by
  unfold cycle?
  rw [Option.bind_eq_some_iff]
  constructor
  · rintro ⟨p, hp, hc⟩
    split at hc
    case h_1 tick c' hphase =>
      cases hc
      exact ⟨p, tick, hp, hphase⟩
    case h_2 => cases hc
  · rintro ⟨p, tick, hp, hphase⟩
    exact ⟨p, hp, by rw [hphase]⟩

/-- The owner may put another prober in that is in no cycle or in the same one. -/
lemma rests_of_prober {prober : Option Prober} {world : World σ}
    (hnow : world.now = m.world.now)
    (hphase : ∀ p tick c, prober = some p → p.phase = .cycling tick c →
      ∃ p', m.prober = some p' ∧ p'.phase = .cycling tick c) :
    m.Rests { m with world := world, prober := prober } where
  setup := rfl
  now := hnow
  cycle := by
    intro c hc
    obtain ⟨p, tick, hp, hcycling⟩ := cycle?_eq_some_iff.mp hc
    obtain ⟨p', hp', hcycling'⟩ := hphase p tick c hp hcycling
    exact cycle?_eq_some_iff.mpr ⟨p', tick, hp', hcycling'⟩

/-! ## Errands -/

/-- The first stride sets out from the manager itself. -/
lemma before_head_strides {fuel : Nat} (h : (m.strides fuel f).head? = some x) : x.before = m := by
  cases fuel with
  | zero => cases h
  | succ fuel =>
    unfold strides at h
    cases hstride : m.stride? f with
    | none =>
      rw [hstride] at h
      cases h
    | some out =>
      obtain ⟨y, g⟩ := out
      rw [hstride] at h
      cases h
      cases makes_of_stride? hstride <;> rfl

/-- The strides of an activity happen one after the other. -/
lemma course_strides (m : Manager σ) (f : Foreground) (fuel : Nat) :
    Course (m.strides fuel f) where
  makes := by
    intro x hx
    exact makes_of_mem_strides hx
  rests := by
    induction fuel generalizing m f with
    | zero => exact .nil
    | succ fuel ih =>
      unfold strides
      cases m.stride? f with
      | none => exact .nil
      | some out =>
        refine List.isChain_cons.mpr ⟨?_, ih out.1.after out.2⟩
        intro y hy
        rw [before_head_strides hy]
        exact .refl _

/-- What an activity comes to is what its last stride leaves. -/
lemma await_fst (m : Manager σ) (f : Foreground) :
    (∀ x ∈ (m.strides stepLimit f).getLast?, (m.await f).1 = x.after) ∧
      (m.strides stepLimit f = [] → (m.await f).1 = m) := by
  have hlast : (m.drive stepLimit f []).1 =
      ((m.strides stepLimit f).getLast?.map Stride.after).getD m := m.drive_fst f []
  constructor
  · intro x hx
    rw [await, hlast, hx]
    rfl
  · intro hnil
    rw [await, hlast, hnil]
    rfl

/-- Before and after the strides of an errand, and if it has none, nothing takes the prober from its
course. -/
structure Abides (m : Manager σ) (errand : Errand) : Prop where
  head : ∀ x ∈ (m.stridesOf errand).head?, m.Rests x.before
  last : ∀ x ∈ (m.stridesOf errand).getLast?, x.after.Rests (m.perform errand).1
  none : m.stridesOf errand = [] → m.Rests (m.perform errand).1

/-- An errand abides if nothing but its strides takes the prober from its course. -/
lemma abides_of_activity {errand : Errand} (hactivity : m.activity? errand = some (n, f))
    (hbegins : m.Rests n) (hends : (n.await f).1.Rests (m.perform errand).1) :
    m.Abides errand := by
  have hstrides : m.stridesOf errand = n.strides stepLimit f := by rw [stridesOf, hactivity]
  obtain ⟨hlast, hnone⟩ := n.await_fst f
  constructor
  · intro x hx
    rw [hstrides] at hx
    rw [before_head_strides hx]
    exact hbegins
  · intro x hx
    rw [hstrides] at hx
    rw [← hlast x hx]
    exact hends
  · intro hnil
    rw [hstrides] at hnil
    rw [hnone hnil] at hends
    exact hbegins.trans hends

/-- An errand without strides that keeps the prober in its course. -/
lemma abides_of_rests {errand : Errand} (hactivity : m.activity? errand = none)
    (hrests : m.Rests (m.perform errand).1) : m.Abides errand := by
  have hnil : m.stridesOf errand = [] := by rw [stridesOf, hactivity]
  exact ⟨by simp [hnil], by simp [hnil], fun _ => hrests⟩

/-- An errand other than a stop abides if it does nothing before its strides. -/
lemma abides_of_ne_stop {errand : Errand} (hstop : errand ≠ .stop)
    (hactivity : m.activity? errand = some (m, f)) : m.Abides errand := by
  refine abides_of_activity hactivity (.refl m) ?_
  rw [(perform_of_activity? hstop hactivity).2]
  exact .refl _

/-- Starting the prober leaves the cycles at rest. -/
lemma rests_start (m : Manager σ) : m.Rests m.start.1 := by
  unfold Manager.start
  split
  case isTrue =>
    cases hp : m.prober with
    | some p => exact .refl m
    | none =>
      refine rests_of_prober rfl ?_
      intro p tick c hp hphase
      cases hp
      cases hphase
  case isFalse => exact .refl m

/-- Every errand abides. -/
lemma abides (m : Manager σ) (errand : Errand) : m.Abides errand := by
  cases errand with
  | start => exact abides_of_rests rfl m.rests_start
  | stop =>
    cases hp : m.prober with
    | none =>
      refine abides_of_rests (by rw [activity?, hp]; rfl) ?_
      show m.Rests m.stop.1
      rw [stop_of_none hp]
      exact .refl m
    | some p =>
      refine abides_of_activity (by rw [activity?, hp]; rfl) ?_ ?_
      · refine rests_of_prober rfl ?_
        intro q tick c hq hphase
        cases hq
        exact ⟨p, hp, hphase⟩
      · show Rests _ m.stop.1
        rw [stop_fst hp]
        exact rests_of_prober rfl (by simp)
  | call request => exact abides_of_ne_stop (by simp) rfl
  | checkHealth => exact abides_of_ne_stop (by simp) rfl
  | status => exact abides_of_rests rfl (rests_of_prober rfl fun p _ _ hp hc => ⟨p, hp, hc⟩)
  | sleep length => exact abides_of_ne_stop (by simp) rfl

/-- Up to the first stride of a history the manager rests. -/
lemma rests_head_history (m : Manager σ) (errands : List Errand) :
    ∀ x ∈ (m.history errands).head?, m.Rests x.before := by
  induction errands generalizing m with
  | nil => simp [history]
  | cons errand rest ih =>
    have habides := m.abides errand
    intro x hx
    unfold history at hx
    cases hstrides : m.stridesOf errand with
    | nil =>
      rw [hstrides, List.nil_append] at hx
      exact (habides.none hstrides).trans (ih _ x hx)
    | cons first more =>
      rw [hstrides] at hx
      refine habides.head x ?_
      rw [hstrides]
      exact hx

/-- Whatever errands the owner of a manager runs, their strides happen one after the other. -/
theorem course_history (m : Manager σ) (errands : List Errand) : Course (m.history errands) := by
  induction errands generalizing m with
  | nil => exact ⟨by simp [history], by simp [history]⟩
  | cons errand rest ih =>
    have hrest := ih (m.perform errand).1
    constructor
    · intro x hx
      rcases List.mem_append.mp hx with hx | hx
      · exact makes_of_mem_stridesOf hx
      · exact hrest.makes x hx
    · refine List.isChain_append.mpr ⟨?_, hrest.rests, ?_⟩
      · unfold stridesOf
        split
        case h_1 n f _ => exact (n.course_strides f stepLimit).rests
        case h_2 => exact .nil
      · intro x hx y hy
        exact ((m.abides errand).last x hx).trans (rests_head_history _ rest y hy)

/-! ## Turns -/

end Manager

/-- The turn of a cycle of the background prober that a stride is. -/
def Stride.turn? (x : Stride σ) : Option Cycle.Turn :=
  match x.actor with
  | .prober => x.before.cycle?.bind (Cycle.turn? x.before.setup x.before.world)
  | _ => none

namespace Manager

/-- The strides from the beginning of a cycle of the background prober to its end, and the fault
that ended it, if one did. -/
structure ProbeCycle (setup : Setup σ) (method : String) (start : Nat) (fault? : Option Fault)
    (xs : List (Stride σ)) : Prop where
  course : Course xs
  nonempty : xs ≠ []
  begins : ∀ x ∈ xs.head?, x.before.setup = setup ∧ x.before.world.now = start ∧
    x.before.cycle? = some (.start method setup.registry.size)
  goes_on : ∀ x ∈ xs, x.before.cycle?.map Cycle.isOver = some false
  ends : ∀ x ∈ xs.getLast?, x.after.cycle?.map Cycle.isOver = some true ∧
    x.after.cycle?.bind Cycle.fault? = fault?

/-- A manager whose background prober is in the midst of a cycle, after some turns. -/
def Midst (setup : Setup σ) (method : String) (start : Nat) (turns : List Cycle.Turn)
    (m : Manager σ) : Prop :=
  ∃ c probes answers, m.setup = setup ∧ m.cycle? = some c ∧ c.method = method ∧
    c.phase = .running probes ∧
    Cycle.Midway setup.registry.size start answers turns probes m.world.now

/-- A manager whose background prober is in a cycle that broke off after some turns. -/
def BreaksOff (size start : Nat) (turns : List Cycle.Turn) (m : Manager σ) : Prop :=
  ∃ c fault answers culprit, m.cycle? = some c ∧ c.phase = .faulted fault ∧
    Cycle.Ran size start answers (some culprit) (some fault) turns

/-- The prober takes its turns as those of its cycle. -/
def TakesTurn (setup : Setup σ) (method : String) (x : Stride σ) : Prop :=
  x.actor = .prober → ∃ turn, x.turn? = some turn ∧
    turn.Taken setup ⟨method, []⟩ x.before.world x.after.world x.notes

/-- Resting with its cycle still there leaves a manager in the midst of it. -/
lemma Midst.rests (h : Midst setup method start turns m) (hrests : m.Rests n)
    (hcycle : n.cycle?.isSome) : Midst setup method start turns n := by
  obtain ⟨c, probes, answers, hsetup, hc, hmethod, hphase, hmidway⟩ := h
  obtain ⟨c', hc'⟩ := Option.isSome_iff_exists.mp hcycle
  cases hc.symm.trans (hrests.cycle c' hc')
  exact ⟨c, probes, answers, hrests.setup.trans hsetup, hc', hmethod, hphase,
    hrests.now.symm ▸ hmidway⟩

/-- A cycle that is over in its midst has come to its end without a fault. -/
lemma Midst.ran_of_isOver (h : Midst setup method start turns m)
    (hover : m.cycle?.map Cycle.isOver = some true) :
    m.cycle?.bind Cycle.fault? = none ∧ ∃ answers,
      Cycle.Ran setup.registry.size start answers none none turns := by
  obtain ⟨c, probes, answers, rfl, hc, rfl, hprobes, hmidway⟩ := h
  rw [hc] at hover ⊢
  refine ⟨by rw [Option.bind_some, Cycle.fault?, hprobes], answers, hmidway.ran ?_⟩
  replace hover : c.isOver = true := Option.some.inj hover
  rw [Cycle.isOver, hprobes] at hover
  intro probe hprobe
  have hdone := List.all_eq_true.mp hover probe hprobe
  cases probe with
  | unsent => cases hdone
  | waiting since settled => cases hdone
  | done => rfl

/-- A cycle that broke off is over. -/
lemma BreaksOff.isOver {size : Nat} (h : BreaksOff size start turns m) :
    m.cycle?.map Cycle.isOver = some true := by
  obtain ⟨c, fault, -, -, hc, hphase, -⟩ := h
  rw [hc, Option.map_some, Cycle.isOver, hphase]

/-- Whatever is done, the cycle stays in its course, and what the prober does is its next turn. -/
theorem Midst.makes (h : Midst setup method start turns m)
    (hgoes : m.cycle?.map Cycle.isOver = some false) (hmakes : m.Makes f x f') :
    TakesTurn setup method x ∧
      (Midst setup method start (turns ++ x.turn?.toList) x.after ∨
        BreaksOff setup.registry.size start (turns ++ x.turn?.toList) x.after) := by
  obtain ⟨c, probes, answers, rfl, hc, rfl, hprobes, hmidway⟩ := h
  obtain ⟨p, tick, hp, hphase⟩ := cycle?_eq_some_iff.mp hc
  have hover : c.isOver = false := by
    rw [hc] at hgoes
    exact Option.some.inj hgoes
  cases hmakes with
  | owner hstep =>
    refine ⟨nofun, Or.inl ⟨c, probes, answers, rfl, hc, rfl, hprobes, ?_⟩⟩
    simp only [Stride.turn?, Option.toList_none, List.append_nil]
    rw [Foreground.now_of_step? hstep]
    exact hmidway
  | clock hquiet hmoment hlater =>
    refine ⟨nofun, Or.inl ⟨c, probes, answers, rfl, hc, rfl, hprobes, ?_⟩⟩
    simp only [Stride.turn?, Option.toList_none, List.append_nil]
    refine hmidway.later hlater.le hprobes ?_
    intro u hu
    have hwakes : m.proberWakesAt? = some u := by
      simp [proberWakesAt?, hp, Prober.wakesAt?, hphase, hover, hu]
    rw [nextMoment?, hwakes] at hmoment
    exact le_of_earliest? hmoment
  | prober hp' hstep =>
    cases hp.symm.trans hp'
    rw [Prober.step?, hphase] at hstep
    simp only [hover, Bool.false_eq_true, if_false] at hstep
    obtain ⟨⟨next, c', notes⟩, hcycle, heq⟩ := Option.map_eq_some_iff.mp hstep
    cases heq
    obtain ⟨turn, hturn, htaken, hafter⟩ := hmidway.step hprobes hcycle
    obtain ⟨i, -, hat⟩ := Option.bind_eq_some_iff.mp hcycle
    have hnow : next.now = m.world.now := Cycle.now_of_stepAt? hat
    have hstride : Stride.turn? ⟨.prober, m,
        { m with world := next, prober := some { p with phase := .cycling tick c' } }, notes⟩ =
        some turn := by
      simp [Stride.turn?, hc, hturn]
    rw [hstride]
    refine ⟨fun _ => ⟨turn, hstride, htaken⟩, ?_⟩
    rcases hafter with ⟨answers', probes', hprobes', hmidway'⟩ | ⟨fault, hfaulted, hran⟩
    · exact Or.inl ⟨c', probes', answers', rfl, rfl, Cycle.method_of_stepAt? hat, hprobes',
        hnow.symm ▸ hmidway'⟩
    · exact Or.inr ⟨c', fault, answers, turn.index, rfl, hfaulted, hran⟩

/-- From the midst of a cycle to its end the prober takes the turns of the cycle. -/
lemma Midst.ran {fault? : Option Fault} {xs : List (Stride σ)} (hcourse : Course xs)
    (hgoes : ∀ x ∈ xs, x.before.cycle?.map Cycle.isOver = some false) (hhead : xs.head? = some x)
    (h : Midst setup method start turns x.before) {last : Stride σ}
    (hlast : xs.getLast? = some last) (hover : last.after.cycle?.map Cycle.isOver = some true)
    (hfault : last.after.cycle?.bind Cycle.fault? = fault?) :
    (∀ x ∈ xs, TakesTurn setup method x) ∧ ∃ answers culprit?,
      Cycle.Ran setup.registry.size start answers culprit? fault?
        (turns ++ xs.filterMap Stride.turn?) := by
  induction xs generalizing turns x with
  | nil => cases hhead
  | cons first rest ih =>
    obtain rfl : first = x := Option.some.inj hhead
    obtain ⟨f, f', hmakes⟩ := hcourse.makes first List.mem_cons_self
    obtain ⟨htakes, hafter⟩ := h.makes (hgoes first List.mem_cons_self) hmakes
    have hturns : turns ++ (first :: rest).filterMap Stride.turn? =
        turns ++ first.turn?.toList ++ rest.filterMap Stride.turn? := by
      cases hturn : first.turn? with
      | none => simp [hturn]
      | some turn => simp [hturn]
    rw [hturns]
    cases rest with
    | nil =>
      obtain rfl : first = last := Option.some.inj hlast
      rw [List.filterMap_nil, List.append_nil, ← hfault]
      refine ⟨by simpa using htakes, ?_⟩
      rcases hafter with hmidst | ⟨c, fault, answers, culprit, hc, hphase, hran⟩
      · obtain ⟨hnone, answers, hran⟩ := hmidst.ran_of_isOver hover
        rw [hnone]
        exact ⟨answers, none, hran⟩
      · rw [hc, Option.bind_some, Cycle.fault?, hphase]
        exact ⟨answers, some culprit, hran⟩
    | cons y rest =>
      obtain ⟨hrests, hchain⟩ := List.isChain_cons_cons.mp hcourse.rests
      have hy := hgoes y (List.mem_cons_of_mem _ List.mem_cons_self)
      obtain ⟨c, hc, hrunning⟩ := Option.map_eq_some_iff.mp hy
      have hmidst : Midst setup method start (turns ++ first.turn?.toList) y.before := by
        rcases hafter with hmidst | hbroken
        · exact hmidst.rests hrests (by rw [hc]; rfl)
        · have hover := hbroken.isOver
          rw [hrests.cycle c hc, Option.map_some, hrunning] at hover
          cases hover
      have hrest : Course (y :: rest) :=
        ⟨fun z hz => hcourse.makes z (List.mem_cons_of_mem _ hz), hchain⟩
      obtain ⟨hall, hran⟩ := ih hrest (fun z hz => hgoes z (List.mem_cons_of_mem _ hz)) rfl hmidst
        (by rwa [List.getLast?_cons_cons] at hlast)
      refine ⟨?_, hran⟩
      intro z hz
      rcases List.mem_cons.mp hz with rfl | hz
      · exact htakes
      · exact hall z hz

/-! ## The first cycle -/

/-- An activity from the beginning of a cycle to its end. -/
lemma probeCycle_strides {fault? : Option Fault} {fuel : Nat} (hne : m.strides fuel f ≠ [])
    (hbegins : m.cycle? = some (.start method m.setup.registry.size))
    (hgoes : ∀ x ∈ m.strides fuel f, x.before.cycle?.map Cycle.isOver = some false)
    (hover : (m.drive fuel f []).1.cycle?.map Cycle.isOver = some true)
    (hfault : (m.drive fuel f []).1.cycle?.bind Cycle.fault? = fault?) :
    ProbeCycle m.setup method m.world.now fault? (m.strides fuel f) where
  course := m.course_strides f fuel
  nonempty := hne
  begins := by
    intro x hx
    rw [before_head_strides hx]
    exact ⟨rfl, rfl, hbegins⟩
  goes_on := hgoes
  ends := by
    intro x hx
    rw [drive_fst, hx] at hover hfault
    exact ⟨hover, hfault⟩

/-- A step of the prober is what comes next while its owner sleeps. -/
lemma step?_sleep_of_prober {m : Manager σ} {p p' : Prober} {world : World σ} {notes : Journal}
    {endsAt : Nat} (hp : m.prober = some p) (hnow : m.world.now < endsAt)
    (hstep : p.step? m.setup m.world = some (world, p', notes)) :
    m.step? (.sleep endsAt) =
      some ({ m with world := world, prober := some p' }, .sleep endsAt, notes) := by
  have hsleeps : (Foreground.sleep endsAt).isOver m.world.now m.prober = false :=
    decide_eq_false (Nat.not_le_of_lt hnow)
  rw [step?_eq_stride?, stride?, hsleeps]
  simp [Foreground.step?, stepProber?, hp, hstep]

/-- A prober that was just started begins its first cycle at once. -/
lemma cycle?_of_started {m : Manager σ} {interval : Duration} {method : String} {endsAt : Nat}
    (hp : m.prober = some (Prober.new interval method)) (hnow : m.world.now < endsAt) :
    (m.drive 2 (.sleep endsAt) []).1.cycle? = some (.start method m.setup.registry.size) := by
  have htick : ∀ p : Prober, p.phase = .idle (m.world.now * nanosPerMilli) →
      p.stopping = false → ∃ tick, p.step? m.setup m.world = some (m.world,
        { p with phase := .cycling tick (.start p.method m.setup.registry.size) }, []) := by
    intro p hphase hstopping
    have hdue : Prober.tickMillis (m.world.now * nanosPerMilli) ≤ m.world.now := by
      unfold Prober.tickMillis nanosPerMilli
      omega
    rw [Prober.step?, hphase, hstopping]
    dsimp only
    rw [if_neg Bool.false_ne_true, if_pos hdue]
    exact ⟨_, rfl⟩
  obtain ⟨p', notes, hbegin, hphase, hstopping, hmethod⟩ :
      ∃ p' notes, (Prober.new interval method).step? m.setup m.world = some (m.world, p', notes) ∧
        p'.phase = .idle (m.world.now * nanosPerMilli) ∧ p'.stopping = false ∧
        p'.method = method := ⟨_, _, rfl, rfl, rfl, rfl⟩
  obtain ⟨tick, hstep⟩ := htick p' hphase hstopping
  have hnext := step?_sleep_of_prober (m := { m with prober := some p' }) rfl hnow hstep
  rw [drive_of_step (step?_sleep_of_prober hp hnow hbegin), drive_of_step hnext, drive, hmethod]
  rfl

/-! ## The law -/

/-- **A probe cycle goes on until the end of a probe breaks it off.** Whatever the owner of a
manager does meanwhile, the probes set out when the cycle begins, and their ends are taken in as
they arrive, those of one time in the order of the endpoints. The first end that is a fault breaks
the cycle off: what arrives before it is taken in as it is without the fault, what arrives after it
is lost, and if it arrives at once the endpoints after it get no probe. -/
theorem probe_cycle_runs_until_it_breaks {fault? : Option Fault} {xs : List (Stride σ)}
    (h : ProbeCycle setup method start fault? xs) :
    (∀ x ∈ xs, TakesTurn setup method x) ∧ ∃ answers culprit?,
      Cycle.Ran setup.registry.size start answers culprit? fault?
        (xs.filterMap Stride.turn?) := by
  have hhead := List.head?_eq_some_head h.nonempty
  have hlast := List.getLast?_eq_some_getLast h.nonempty
  obtain ⟨hsetup, hnow, hcycle⟩ := h.begins _ hhead
  obtain ⟨hover, hfault⟩ := h.ends _ hlast
  have hmidst : Midst setup method start [] (xs.head h.nonempty).before := by
    refine ⟨_, _, [], hsetup, hcycle, rfl, rfl, ?_⟩
    rw [hnow]
    exact Cycle.midway_start _ _
  exact hmidst.ran h.course h.goes_on hhead hlast hover hfault

/-- Three probes of which the second faults after three milliseconds: the end of the third, which
arrives earlier, is taken in, and that of the first, which would arrive later, is not. -/
theorem probe_cycle_runs_until_it_breaks_at_second_probe :
    let scripted : Rpc.Transport (List Rpc.Answer) :=
      ⟨fun answers _ _ => (answers.headD ⟨0, .silence⟩, answers.tail)⟩
    let answers : List Rpc.Answer :=
      [⟨5, .result (.ok (.bool true))⟩, ⟨3, .fault ⟨some "boom"⟩⟩, ⟨1, .result (.ok (.bool true))⟩]
    let registry : Registry :=
      ⟨[.ofUrl "http://a", .ofUrl "http://b", .ofUrl "http://c"].map Endpoint.ofConfig, by simp,
        by decide⟩
    let started := (fresh registry Settings.standard scripted answers .standard fun _ => 0).start.1
    let m := (started.drive 2 (.sleep 500) []).1
    let xs := m.strides 7 (.sleep 500)
    ProbeCycle m.setup "getblockcount" m.world.now (some ⟨some "boom"⟩) xs ∧
      (∃ settled culprit?, Cycle.Ran m.setup.registry.size m.world.now settled culprit?
        (some ⟨some "boom"⟩) (xs.filterMap Stride.turn?)) ∧
      (Cycle.departures (xs.filterMap Stride.turn?)).map (fun x => (x.index, x.time)) =
        [(0, 0), (1, 0), (2, 0)] ∧
      (Cycle.arrivals (xs.filterMap Stride.turn?)).map (fun x => (x.index, x.time)) =
        [(2, 1), (1, 3)] := by
  intro scripted answers registry started m xs
  have hsize : m.setup.registry.size = 3 := by decide
  have hbegins : m.cycle? = some (.start "getblockcount" m.setup.registry.size) := by
    rw [hsize]
    exact cycle?_of_started rfl (by decide)
  have hlength : xs.length = 7 := by decide
  have hcycle : ProbeCycle m.setup "getblockcount" m.world.now (some ⟨some "boom"⟩) xs :=
    probeCycle_strides (List.ne_nil_of_length_eq_add_one hlength) hbegins (by decide) (by decide)
      (by decide)
  exact ⟨hcycle, (probe_cycle_runs_until_it_breaks hcycle).2, by decide, by decide⟩

/-- Of two endpoints of which the first faults at once and the second would answer, the second gets
no probe in the cycle and nothing is recorded of it. Without the fault it gets one and turns out to
be healthy. -/
theorem fault_leaves_next_endpoint_unprobed :
    let scripted : Rpc.Transport (List Rpc.Answer) :=
      ⟨fun answers _ _ => (answers.headD ⟨0, .silence⟩, answers.tail)⟩
    let registry : Registry :=
      ⟨[.ofUrl "http://a", .ofUrl "http://b"].map Endpoint.ofConfig, by simp, by decide⟩
    let begun (first : Rpc.Reply) :=
      ((fresh registry Settings.standard scripted [⟨0, first⟩, ⟨0, .result (.ok (.bool true))⟩]
        .standard fun _ => 0).start.1.drive 2 (.sleep 500) []).1
    let broken := begun (.fault ⟨some "boom"⟩)
    let whole := begun (.result (.ok (.bool true)))
    ProbeCycle broken.setup "getblockcount" broken.world.now (some ⟨some "boom"⟩)
        (broken.strides 2 (.sleep 500)) ∧
      (Journal.sendings ((broken.strides 2 (.sleep 500)).flatMap Stride.notes)).map Sending.url =
        ["http://a"] ∧
      (broken.drive 2 (.sleep 500) []).1.world.tracker.recordAt 1 = .initial ∧
      ProbeCycle whole.setup "getblockcount" whole.world.now none
        (whole.strides 4 (.sleep 500)) ∧
      (Journal.sendings ((whole.strides 4 (.sleep 500)).flatMap Stride.notes)).map Sending.url =
        ["http://a", "http://b"] ∧
      ((whole.drive 4 (.sleep 500) []).1.world.tracker.recordAt 1).status = .healthy := by
  intro scripted registry begun broken whole
  have hbegins : ∀ first,
      (begun first).cycle? = some (.start "getblockcount" registry.size) := by
    intro first
    have hnow : 0 < 500 := by decide
    exact cycle?_of_started rfl hnow
  have hsize : broken.setup.registry.size = registry.size ∧
      whole.setup.registry.size = registry.size := by decide
  have hlength : (broken.strides 2 (.sleep 500)).length = 2 ∧
      (whole.strides 4 (.sleep 500)).length = 4 := by decide
  refine ⟨?_, by decide, by decide, ?_, by decide, by decide⟩
  · exact probeCycle_strides (List.ne_nil_of_length_eq_add_one hlength.1)
      (by rw [hsize.1]; exact hbegins _) (by decide) (by decide) (by decide)
  · exact probeCycle_strides (List.ne_nil_of_length_eq_add_one hlength.2)
      (by rw [hsize.2]; exact hbegins _) (by decide) (by decide) (by decide)

end Manager

end Failover
