import Failover.Admin
import Failover.Proofs.Tracker.Expiry
import Failover.Proofs.Traffic.Walk

/-!
# Reports and calls

A report judges each endpoint by itself, the status server sums the report up, and a call decides
while it walks. They agree at one instant: a question leaves a tracker that answers every further
question of this instant alike (`Tracker.AlikeAt`), so neither the report nor the endpoints that a
call has skipped change what is found at the next one. A call then sends something exactly if the
report shows an endpoint that it may try (`World.Admits`), and a call that sends nothing ends at
once and leaves every record alone.
-/

namespace Failover

/-! ## Questions of one instant -/

namespace Tracker

/-- Two trackers that answer every question of an instant alike. -/
structure AlikeAt (now : Instant) (t u : Tracker) : Prop extends t.Alike u where
  opens : ∀ key, (t.breakers.until? key).any now.before = (u.breakers.until? key).any now.before

variable {now : Instant} {t u : Tracker}

/-- A tracker is like itself at every instant. -/
lemma AlikeAt.refl (now : Instant) (t : Tracker) : t.AlikeAt now t := ⟨.refl t, fun _ => rfl⟩

/-- A question leaves a tracker that answers the questions of the same instant alike. -/
lemma alikeAt_after_question {e : Entry} (h : e.deed.isObservation = false) :
    (t.after e).AlikeAt e.time.instant t where
  toAlike := alike_after_question h
  opens := by
    intro key
    have hinert : t.trips key e = false ∧ t.releases key e = false := by
      obtain ⟨time, deed⟩ := e
      cases deed <;> first | exact ⟨rfl, rfl⟩ | cases h
    rw [until?_after_of_neither hinert.1 hinert.2]
    split
    · cases t.breakers.until? key with
      | none => rfl
      | some endsAt => cases hb : e.time.instant.before endsAt <;> simp [Option.filter, hb]
    · rfl

/-- Trackers that answer the questions of an instant alike give the same verdict. -/
lemma AlikeAt.eligibility (h : t.AlikeAt now u) (index : Nat) (endpoint : Endpoint)
    (isLast : Bool) :
    (t.eligibility now index endpoint isLast).1 = (u.eligibility now index endpoint isLast).1 := by
  rw [eligibility_fst, eligibility_fst, isOpen_fst, isOpen_fst, h.opens, recordAt, recordAt,
    record?, record?, h.records]

end Tracker

variable {σ : Type}

namespace World

/-- A call may try the endpoint with an index. -/
def Admits (setup : Setup σ) (w : World σ) (index : Nat) : Prop :=
  ∃ endpoint, setup.registry.get? index = some endpoint ∧
    (w.eligibility setup index endpoint).1 = .eligible

/-- Two worlds at the same time whose trackers answer the questions of this time alike. -/
structure Alike (setup : Setup σ) (w u : World σ) : Prop where
  now : w.now = u.now
  tracker : w.tracker.AlikeAt (u.reading setup).instant u.tracker

variable {setup : Setup σ} {w u v : World σ}

/-- A world is like itself. -/
lemma Alike.refl (setup : Setup σ) (w : World σ) : w.Alike setup w := ⟨rfl, .refl ..⟩

/-- Worlds that are alike read the same time. -/
lemma Alike.reading (h : w.Alike setup u) : w.reading setup = u.reading setup := by
  unfold World.reading
  rw [h.now]

/-- Worlds that are alike admit the same endpoints. -/
lemma Alike.admits_iff (h : w.Alike setup u) (index : Nat) :
    w.Admits setup index ↔ u.Admits setup index := by
  unfold Admits
  refine exists_congr fun endpoint => and_congr_right fun _ => ?_
  show (w.tracker.eligibility (w.reading setup).instant index endpoint _).1 = _ ↔
    (u.tracker.eligibility (u.reading setup).instant index endpoint _).1 = _
  rw [h.reading, h.tracker.eligibility]

/-- A look at an endpoint leaves a world in which all of them are found as before. -/
lemma alike_eligibility (setup : Setup σ) (w : World σ) (index : Nat) (endpoint : Endpoint) :
    ((w.eligibility setup index endpoint).2.1).Alike setup w where
  now := rfl
  tracker :=
    Tracker.alikeAt_after_question
      (e := ⟨w.reading setup, .judge index endpoint (setup.registry.isLast index)⟩) rfl

/-- A report leaves a world in which all endpoints are found as before. -/
lemma alike_snapshot (setup : Setup σ) (w : World σ) : ((w.snapshot setup).2.1).Alike setup w where
  now := rfl
  tracker := Tracker.alikeAt_after_question (e := ⟨w.reading setup, .survey setup.registry⟩) rfl

end World

/-! ## What a call does at one instant -/

/-- A look at the place of an index finds no endpoint, skips one that the call may not try, or sends
a request. -/
lemma Call.look_cases (setup : Setup σ) (w : World σ) {c : Call} {index : Nat}
    (hphase : c.phase = .looking index) :
    (setup.registry.get? index = none ∧ c.look setup w index = c.exhaust w) ∨
      (∃ endpoint notes, ¬ w.Admits setup index ∧ notes.sendings = [] ∧
        setup.registry.get? index = some endpoint ∧ c.look setup w index =
          ((w.eligibility setup index endpoint).2.1, { c with phase := .looking (index + 1) },
            notes)) ∨
      (w.Admits setup index ∧ (c.look setup w index).2.2.sendings ≠ []) := by
  have htakes := takes_look setup w c hphase
  generalize c.look setup w index = out at htakes ⊢
  cases htakes with
  | exhaust hphase' hnone =>
    cases hphase.symm.trans hphase'
    exact Or.inl ⟨hnone, rfl⟩
  | @skip _ endpoint notes hphase' hget hforbids hquiet =>
    cases hphase.symm.trans hphase'
    refine Or.inr (Or.inl ⟨endpoint, notes, ?_, hquiet, hget, rfl⟩)
    rintro ⟨ep, hep, heligible⟩
    obtain rfl := Option.some.inj (hget.symm.trans hep)
    simp [Eligibility.allows, heligible] at hforbids
  | @visit _ endpoint _ _ hphase' hget hallows =>
    cases hphase.symm.trans hphase'
    refine Or.inr (Or.inr ⟨⟨endpoint, hget, of_decide_eq_true hallows⟩, ?_⟩)
    simp [sendings_attempt]
  | crash hphase' => cases hphase.symm.trans hphase'
  | succeed hphase' => cases hphase.symm.trans hphase'
  | giveUp hphase' => cases hphase.symm.trans hphase'
  | pause hphase' => cases hphase.symm.trans hphase'
  | resume hphase' => cases hphase.symm.trans hphase'

/-- A call begins by looking at the first endpoint. -/
lemma Call.start_phase (request : Rpc.Request) (now : Nat) :
    (start request now).phase = .looking 0 := rfl

namespace Manager

variable {m m' : Manager σ} {f f' : Foreground} {notes : Journal}

/-- A call that is given up after so many steps: its result if it has one by then, the manager
after it and what it left in the journal. `Manager.call` is given up after `stepLimit` steps. -/
def callWithin (fuel : Nat) (m : Manager σ) (request : Rpc.Request) :
    Option CallResult × Manager σ × Journal :=
  let (m, f, notes) := m.drive fuel (.call m.world.now request) []
  (f.results.head?.map Prod.fst, m, notes)

/-- A call may take as many steps as the manager grants. -/
lemma call_eq_callWithin (m : Manager σ) (request : Rpc.Request) :
    m.call request = m.callWithin stepLimit request := rfl

/-- To drive on after a step is to drive what the step leaves. -/
lemma drive_of_step (h : m.step? f = some (m', f', notes)) (fuel : Nat) (past : List Note) :
    m.drive (fuel + 1) f past = m'.drive fuel f' (notes.reverse ++ past) := by
  simp only [drive, h]

/-- What is over is driven no further. -/
lemma drive_of_isOver (h : f.isOver m.world.now m.prober = true) (fuel : Nat)
    (past : List Note) : m.drive fuel f past = (m, f, past.reverse) := by
  cases fuel with
  | zero => rfl
  | succ fuel => simp [drive, step?, h]

/-- A run keeps what is in the journal already. -/
lemma exists_drive_eq_append (fuel : Nat) (m : Manager σ) (f : Foreground) (past : List Note) :
    ∃ more, (m.drive fuel f past).2.2 = past.reverse ++ more := by
  induction fuel generalizing m f past with
  | zero => exact ⟨[], (List.append_nil _).symm⟩
  | succ fuel ih =>
    unfold drive
    split
    · exact ⟨[], (List.append_nil _).symm⟩
    case h_2 m₁ f₁ notes hstep =>
      obtain ⟨more, hmore⟩ := ih m₁ f₁ (notes.reverse ++ past)
      exact ⟨notes ++ more, by simp [hmore]⟩

/-- A single call looks at an endpoint before anything else happens. -/
lemma drive_looking {c : Call} {index : Nat} (hphase : c.phase = .looking index) (fuel : Nat)
    (past : List Note) :
    m.drive (fuel + 1) (.calls [.active c]) past =
      let out := c.look m.setup m.world index
      { m with world := out.1 }.drive fuel (.calls [.ofCall out.2.1 m.world.now])
        (out.2.2.reverse ++ past) := by
  refine drive_of_step ?_ fuel past
  simp [step?, stepNow?, Foreground.isOver, Foreground.step?, CallTask.stepFirst?,
    CallTask.step?, CallTask.result?, Call.step?, hphase]

/-- A call looks at its first endpoint at the instant at which it begins. -/
lemma drive_call (fuel : Nat) (m : Manager σ) (request : Rpc.Request) :
    m.drive (fuel + 1) (.call m.world.now request) [] =
      m.drive fuel (.calls [.active (.start request m.world.now)]) [] := by
  have hbegin : m.step? (.call m.world.now request) =
      some (m, .calls [.active (.start request m.world.now)], []) := by
    simp [step?, stepNow?, Foreground.call, Foreground.isOver, Foreground.step?,
      CallTask.stepFirst?, CallTask.step?, CallTask.result?]
  exact drive_of_step hbegin fuel []

/-- A call that finds an endpoint which it may try sends something. -/
lemma sendings_drive_of_admits {fuel index i : Nat} {c : Call} {past : List Note}
    (hphase : c.phase = .looking index) (hle : index ≤ i) (hfuel : i < fuel + index)
    (hadmits : m.world.Admits m.setup i) :
    (m.drive fuel (.calls [.active c]) past).2.2.sendings ≠ [] := by
  induction fuel generalizing m c past index with
  | zero => omega
  | succ fuel ih =>
    rw [drive_looking hphase]
    rcases Call.look_cases m.setup m.world hphase with
      ⟨hnone, -⟩ | ⟨endpoint, notes, hforbids, -, -, hlook⟩ | ⟨-, hsends⟩
    · obtain ⟨endpoint, hget, -⟩ := hadmits
      have hlt : i < m.setup.registry.size := (List.getElem?_eq_some_iff.mp hget).1
      have hge : m.setup.registry.size ≤ index := List.getElem?_eq_none_iff.mp hnone
      omega
    · have hne : index ≠ i := by
        rintro rfl
        exact hforbids hadmits
      have hsame := (m.world.alike_eligibility m.setup index endpoint).admits_iff i
      rw [hlook]
      exact ih rfl (by omega) (by omega) (hsame.mpr hadmits)
    · obtain ⟨more, hmore⟩ := exists_drive_eq_append fuel _ _ _
      rw [hmore]
      simp [hsends]

/-- A call that finds no endpoint which it may try ends at the same instant, without an attempt and
without a trace in the records. -/
lemma drive_of_not_admits {fuel index : Nat} {c : Call} (past : List Note)
    (hphase : c.phase = .looking index) (hlast : c.lastFailure = none)
    (hle : index ≤ m.setup.registry.size) (hfuel : m.setup.registry.size < fuel + index)
    (hnone : ∀ i, ¬ m.world.Admits m.setup i) :
    let out := m.drive fuel (.calls [.active c]) past
    out.2.1.results = [(.error (.exhausted c.request.method none), m.world.now)] ∧
      out.1.world.now = m.world.now ∧
      out.1.world.tracker.records = m.world.tracker.records ∧
      out.2.2.sendings = Journal.sendings past.reverse := by
  induction fuel generalizing m c past index with
  | zero => omega
  | succ fuel ih =>
    rw [drive_looking hphase]
    rcases Call.look_cases m.setup m.world hphase with
      ⟨-, hlook⟩ | ⟨endpoint, notes, -, hquiet, hget, hlook⟩ | ⟨hadmits, -⟩
    · rw [hlook]
      dsimp only
      rw [drive_of_isOver rfl]
      refine ⟨?_, rfl, rfl, ?_⟩
      · rw [← hlast]
        rfl
      · simp [Call.sendings_exhaust]
    · have hlt : index < m.setup.registry.size := (List.getElem?_eq_some_iff.mp hget).1
      have halike := m.world.alike_eligibility m.setup index endpoint
      rw [hlook]
      obtain ⟨hresult, hnow, hrecords, hsent⟩ :=
        ih (m := { m with world := (m.world.eligibility m.setup index endpoint).2.1 })
          (c := { c with phase := .looking (index + 1) }) (notes.reverse ++ past) rfl hlast
          hlt (by dsimp only; omega) fun i => (halike.admits_iff i).not.mpr (hnone i)
      refine ⟨hresult, hnow, hrecords.trans halike.tracker.records, hsent.trans ?_⟩
      simp [hquiet]
    · exact absurd hadmits (hnone index)

/-- A call sends something exactly if it may try some endpoint at the instant at which it begins. -/
lemma sendings_callWithin_ne_nil_iff (m : Manager σ) (request : Rpc.Request) {fuel : Nat}
    (hfuel : m.setup.registry.size + 2 ≤ fuel) :
    (m.callWithin fuel request).2.2.sendings ≠ [] ↔ ∃ i, m.world.Admits m.setup i := by
  obtain ⟨left, rfl⟩ := Nat.exists_eq_add_of_le' (Nat.le_trans (Nat.le_add_left 1 _) hfuel)
  unfold callWithin
  rw [drive_call]
  constructor
  · intro hsends
    by_contra hnone
    obtain ⟨-, -, -, hquiet⟩ := drive_of_not_admits (m := m) [] (Call.start_phase request _) rfl
      (Nat.zero_le _) (show _ < left + 0 by omega) (not_exists.mp hnone)
    exact hsends hquiet
  · rintro ⟨i, hadmits⟩
    obtain ⟨endpoint, hget, -⟩ := id hadmits
    have hlt : i < m.setup.registry.size := (List.getElem?_eq_some_iff.mp hget).1
    exact sendings_drive_of_admits (Call.start_phase request _) (Nat.zero_le i) (by omega) hadmits

/-- A call that may try no endpoint ends at the instant at which it begins. -/
lemma callWithin_of_not_admits (m : Manager σ) (request : Rpc.Request) {fuel : Nat}
    (hfuel : m.setup.registry.size + 2 ≤ fuel) (hnone : ¬ ∃ i, m.world.Admits m.setup i) :
    let out := m.callWithin fuel request
    out.1 = some (.error (.exhausted request.method none)) ∧
      out.2.1.world.now = m.world.now ∧
      out.2.1.world.tracker.records = m.world.tracker.records := by
  obtain ⟨left, rfl⟩ := Nat.exists_eq_add_of_le' (Nat.le_trans (Nat.le_add_left 1 _) hfuel)
  unfold callWithin
  rw [drive_call]
  obtain ⟨hresult, hnow, hrecords, -⟩ := drive_of_not_admits (m := m) []
    (Call.start_phase request m.world.now) rfl (Nat.zero_le _) (show _ < left + 0 by omega)
    (not_exists.mp hnone)
  dsimp only
  rw [hresult]
  exact ⟨rfl, hnow, hrecords⟩

/-! ## What a report shows -/

/-- A report shows an endpoint by its record and its breaker. -/
lemma getElem?_status (m : Manager σ) (index : Nat) :
    m.status.1.endpoints[index]? = (m.setup.registry.get? index).map fun endpoint =>
      Tracker.statusOf endpoint (m.world.tracker.recordAt index)
        (m.world.tracker.isOpen (m.world.reading m.setup).instant endpoint).1 := by
  show (Tracker.statuses (m.world.reading m.setup).instant m.world.tracker 0
    m.setup.registry.endpoints).1[index]? = (m.setup.registry.endpoints[index]?).map _
  rw [Tracker.statuses_fst]
  cases h : m.setup.registry.endpoints[index]? with
  | none => simp [List.getElem?_zipIdx, h]
  | some endpoint => simp [List.getElem?_zipIdx, h, Tracker.isOpen_fst]

/-- The status has an entry for each endpoint. -/
lemma length_status (m : Manager σ) : m.status.1.endpoints.length = m.setup.registry.size := by
  show (Tracker.statuses _ _ _ _).1.length = _
  rw [Tracker.statuses_fst]
  simp [Registry.size]

/-- An entry is usable exactly if a call might try its endpoint even if it is not the last one. -/
lemma isUsable_statusOf_iff (t : Tracker) (now : Instant) (index : Nat) (endpoint : Endpoint) :
    (Tracker.statusOf endpoint (t.recordAt index) (t.isOpen now endpoint).1).isUsable = true ↔
      (t.eligibility now index endpoint false).1 = .eligible := by
  rw [Tracker.eligibility_fst, Eligibility.judge_eq_eligible_iff, EndpointStatus.isUsable,
    Bool.and_eq_true, Bool.not_eq_true', decide_eq_true_iff]
  simp [Tracker.statusOf]

/-- A call may try some endpoint exactly if a report shows a usable one, or a last one whose breaker
is not open. -/
lemma exists_admits_iff (m : Manager σ) :
    (∃ index, m.world.Admits m.setup index) ↔
      0 < m.status.1.usableCount ∨
        ∃ entry, m.status.1.endpoints.getLast? = some entry ∧ entry.circuitOpen = false := by
  have hlast : m.status.1.endpoints.getLast? =
      m.status.1.endpoints[m.setup.registry.size - 1]? := by
    rw [List.getLast?_eq_getElem?, length_status]
  rw [StatusReport.usableCount, List.countP_pos_iff, hlast]
  constructor
  · rintro ⟨index, endpoint, hget, heligible⟩
    have hentry := getElem?_status m index
    rw [hget, Option.map_some] at hentry
    obtain ⟨hclosed, hstatus⟩ := Eligibility.judge_eq_eligible_iff.mp heligible
    cases hisLast : m.setup.registry.isLast index with
    | true =>
      have hindex : m.setup.registry.size - 1 = index := by
        have hsize : index + 1 = m.setup.registry.size := of_decide_eq_true hisLast
        omega
      rw [hindex, hentry]
      exact Or.inr ⟨_, rfl, hclosed⟩
    | false =>
      refine Or.inl ⟨_, List.mem_of_getElem? hentry, (isUsable_statusOf_iff ..).mpr ?_⟩
      rw [hisLast] at hstatus
      exact Eligibility.judge_eq_eligible_iff.mpr ⟨hclosed, hstatus⟩
  · rintro (⟨entry, hmem, husable⟩ | ⟨entry, hentry, hclosed⟩)
    · obtain ⟨index, hentry⟩ := List.mem_iff_getElem?.mp hmem
      rw [getElem?_status] at hentry
      obtain ⟨endpoint, hget, rfl⟩ := Option.map_eq_some_iff.mp hentry
      obtain ⟨hclosed, hstatus⟩ :=
        Eligibility.judge_eq_eligible_iff.mp ((isUsable_statusOf_iff ..).mp husable)
      refine ⟨index, endpoint, hget, Eligibility.judge_eq_eligible_iff.mpr ⟨hclosed, ?_⟩⟩
      exact Or.inl (hstatus.resolve_right Bool.false_ne_true)
    · rw [getElem?_status] at hentry
      obtain ⟨endpoint, hget, rfl⟩ := Option.map_eq_some_iff.mp hentry
      refine ⟨_, endpoint, hget, Eligibility.judge_eq_eligible_iff.mpr ⟨hclosed, Or.inr ?_⟩⟩
      have hpos := m.setup.registry.size_pos
      exact decide_eq_true (by omega)

/-- The status server answers a request for the summary by the number of usable endpoints. -/
lemma code_health (m : Manager σ) {target : String} (htarget : Admin.pathOf target = "/health") :
    (Admin.handle m "GET" target).1.code = if 0 < m.status.1.usableCount then 200 else 503 := by
  have hknown : Admin.isKnown "/health" = true := by decide
  unfold Admin.handle
  simp [htarget, hknown, Admin.page?, Admin.healthCode]

/-- **Reports, summaries and calls agree.** Whatever state a manager is in: its report has one entry
for each endpoint, usable exactly if the endpoint may be tried at this instant even where it is not
the last one; the summary has the code 200 exactly if some entry is usable, and 503 otherwise; and a
call that begins at this instant, before the report or after it, sends something exactly if some
entry is usable or the breaker of the last one is not open. If it sends nothing, it ends exhausted
without a failure at this very instant, and every record is as it was. -/
theorem report_agrees_with_calls (m : Manager σ) :
    let report := m.status.1
    (report.endpoints.length = m.setup.registry.size ∧
      ∀ index endpoint, m.setup.registry.get? index = some endpoint →
        ∃ entry, report.endpoints[index]? = some entry ∧
          (entry.isUsable = true ↔ (m.world.tracker.eligibility (m.world.reading m.setup).instant
            index endpoint false).1 = .eligible)) ∧
    (∀ target, Admin.pathOf target = "/health" →
      ((Admin.handle m "GET" target).1.code = 200 ↔
          ∃ entry ∈ report.endpoints, entry.isUsable = true) ∧
        ((Admin.handle m "GET" target).1.code = 503 ↔
          ∀ entry ∈ report.endpoints, entry.isUsable = false)) ∧
    (∀ now, now = m ∨ now = m.status.2.1 → ∀ request fuel, m.setup.registry.size + 2 ≤ fuel →
      let out := now.callWithin fuel request
      (out.2.2.sendings ≠ [] ↔ 0 < report.usableCount ∨
        ∃ entry, report.endpoints.getLast? = some entry ∧ entry.circuitOpen = false) ∧
      (out.2.2.sendings = [] →
        out.1 = some (.error (.exhausted request.method none)) ∧
          out.2.1.world.now = m.world.now ∧
          out.2.1.world.tracker.records = m.world.tracker.records)) := by
  intro report
  refine ⟨⟨length_status m, ?_⟩, ?_, ?_⟩
  · intro index endpoint hget
    have hentry := getElem?_status m index
    rw [hget, Option.map_some] at hentry
    exact ⟨_, hentry, isUsable_statusOf_iff ..⟩
  · intro target htarget
    have hpos : 0 < report.usableCount ↔ ∃ entry ∈ report.endpoints, entry.isUsable = true :=
      List.countP_pos_iff
    have hnone : (∀ entry ∈ report.endpoints, entry.isUsable = false) ↔
        ¬ 0 < report.usableCount := by
      rw [hpos]
      simp
    rw [code_health m htarget, hnone, ← hpos]
    by_cases h : 0 < report.usableCount <;> simp [report, h]
  · intro now hstart request fuel hfuel
    have halike : now.world.Alike m.setup m.world := by
      rcases hstart with rfl | rfl
      · exact .refl ..
      · exact m.world.alike_snapshot m.setup
    have hsetup : now.setup = m.setup := by
      rcases hstart with rfl | rfl <;> rfl
    have hadmits : (∃ index, now.world.Admits now.setup index) ↔
        0 < report.usableCount ∨
          ∃ entry, report.endpoints.getLast? = some entry ∧ entry.circuitOpen = false := by
      rw [← exists_admits_iff, hsetup]
      exact exists_congr halike.admits_iff
    rw [← hsetup] at hfuel
    have hsends := sendings_callWithin_ne_nil_iff now request hfuel
    refine ⟨hsends.trans hadmits, ?_⟩
    intro hquiet
    obtain ⟨hresult, hnow, hrecords⟩ :=
      callWithin_of_not_admits now request hfuel fun hsome => hsends.mpr hsome hquiet
    exact ⟨hresult, hnow.trans halike.now, hrecords.trans halike.tracker.records⟩

/-- One endpoint after a failure that opened its breaker for a minute: the summary has the code 503,
and a call ends without an attempt. A minute later a call sends something. -/
theorem report_agrees_with_calls_of_tripped_endpoint :
    let settings := { Settings.standard with healthChecksEnabled := false, breakerThreshold := 1 }
    let refusing : Rpc.Transport Unit := ⟨fun _ _ _ => (⟨5, .result (.error .emptyResult)⟩, ())⟩
    let m := fresh ⟨[default], by decide, by decide⟩ settings refusing () .standard fun _ => 0
    let tripped := m.world.tracker.after ⟨m.world.reading m.setup, .failure 0 default .call⟩
    let failed := { m with world := m.world.setTracker tripped }
    let later := failed.setNow 60000
    Admin.pathOf "/health?brief" = "/health" ∧ m.setup.registry.size + 2 ≤ 3 ∧
      (Admin.handle failed "GET" "/health?brief").1.code = 503 ∧
      (failed.callWithin 3 ⟨"ping", []⟩).2.2.sendings = [] ∧
      (failed.callWithin 3 ⟨"ping", []⟩).1 = some (.error (.exhausted "ping" none)) ∧
      (later.callWithin 3 ⟨"ping", []⟩).2.2.sendings ≠ [] := by
  intro settings refusing m tripped failed later
  obtain ⟨-, hsummary, hcalls⟩ := report_agrees_with_calls failed
  obtain ⟨-, hunavailable⟩ := hsummary "/health?brief" (by decide)
  obtain ⟨hsends, hends⟩ := hcalls failed (Or.inl rfl) ⟨"ping", []⟩ 3 (by decide)
  have hopen : failed.status.1.endpoints.getLast?.map EndpointStatus.circuitOpen = some true := by
    decide
  have hquiet : (failed.callWithin 3 ⟨"ping", []⟩).2.2.sendings = [] := by
    by_contra hsome
    rcases hsends.mp hsome with husable | ⟨entry, hlast, hclosed⟩
    · exact absurd husable (by decide)
    · rw [hlast, Option.map_some, hclosed] at hopen
      cases hopen
  obtain ⟨hresult, -, -⟩ := hends hquiet
  obtain ⟨-, -, hlater⟩ := report_agrees_with_calls later
  obtain ⟨hsends', -⟩ := hlater later (Or.inl rfl) ⟨"ping", []⟩ 3 (by decide)
  exact ⟨by decide, by decide, hunavailable.mpr (by decide), hquiet, hresult,
    hsends'.mpr (Or.inr (Option.map_eq_some_iff.mp (by decide)))⟩

end Manager

end Failover
