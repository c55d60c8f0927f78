import Failover.Proofs.Traffic.Itinerary
import Failover.Proofs.Traffic.Step
import Mathlib.Algebra.GroupWithZero.Nat
import Mathlib.Tactic.Common

/-!
# The failover walk

Every call of every run walks the registry as `Walk` says. The invariant is `Call.At`, which says
for each phase of a call what its itinerary looks like: everything before the last stop is over, and
at the last stop the attempts so far have failed except for the one that is on its way. It speaks of
one call and its own steps only; what goes on in between shows in the worlds in which the steps are
made.
-/

namespace Failover

variable {σ : Type} {setup : Setup σ}

/-! ## How an attempt ends -/

namespace World

variable {w : World σ} {endpoint : Endpoint} {request : Rpc.Request}

/-- A sending that ends with a value has this value. -/
lemma value?_of_ending {v : Json}
    (h : (w.send setup endpoint request).1.ending = .result (.ok v)) :
    w.value? setup endpoint request = some v := by
  unfold send Rpc.Answer.settle at h
  unfold value?
  dsimp only at h ⊢
  split at h
  case isTrue hin =>
    rw [if_pos hin]
    split at h
    case h_1 r hr =>
      rw [hr]
      cases h
      rfl
    case h_2 => cases h
    case h_3 => cases h
  case isFalse => cases h

/-- A sending that ends with a failure has this failure. -/
lemma failure?_of_ending {failure : Rpc.Failure}
    (h : (w.send setup endpoint request).1.ending = .result (.error failure)) :
    w.failure? setup endpoint request = some failure := by
  unfold send Rpc.Answer.settle at h
  unfold failure?
  dsimp only at h ⊢
  split at h
  case isTrue hin =>
    rw [if_pos hin]
    split at h
    case h_1 r hr =>
      rw [hr]
      cases h
      rfl
    case h_2 => cases h
    case h_3 hr =>
      rw [hr]
      cases h
      rfl
  case isFalse hlate =>
    rw [if_neg hlate]
    cases h
    rfl

/-- A request over a transport without faults does not end in a fault. -/
lemma ending_ne_fault (htransport : setup.transport.Faultless) (f : Fault) :
    (w.send setup endpoint request).1.ending ≠ .fault f := by
  intro h
  unfold send Rpc.Answer.settle at h
  dsimp only at h
  split at h
  · split at h
    case h_2 g hg => exact htransport _ _ _ g hg
    all_goals cases h
  · cases h

/-- An attempt does not both fail and bring a value. -/
lemma value?_eq_none_of_failure? (h : (w.failure? setup endpoint request).isSome) :
    w.value? setup endpoint request = none := by
  unfold failure? at h
  unfold value?
  dsimp only at h ⊢
  split at h
  case isTrue hin =>
    rw [if_pos hin]
    split
    case h_1 v hv =>
      rw [hv] at h
      cases h
    case h_2 => rfl
  case isFalse hlate => rw [if_neg hlate]

end World

/-- The attempts that the policy allows an endpoint are the budget of the endpoint. -/
lemma RetryPolicy.maxAttempts_forEndpoint (settings : Settings) (endpoint : Endpoint) :
    ((new settings.maxRetries settings.backoffUnit).forEndpoint endpoint).maxAttempts =
      endpoint.budget settings := by
  unfold forEndpoint withOverride Endpoint.budget
  cases endpoint.maxRetries with
  | none => exact Nat.max_comm ..
  | some n => exact Nat.max_comm ..

/-- Every endpoint may be tried at least once. -/
lemma Endpoint.budget_pos (settings : Settings) (e : Endpoint) : 0 < e.budget settings :=
  Nat.le_max_left ..

/-! ## What the steps of a call send -/

namespace Call

variable {c : Call} {w : World σ} {index attempt since : Nat} {endpoint : Endpoint}

/-- An attempt is one request, that of the call. -/
lemma sendings_attempt : (c.attempt setup w index attempt endpoint).2.2.sendings =
    [⟨w.now, endpoint.url, c.request⟩] := rfl

/-- To give up the call sends nothing. -/
lemma sendings_exhaust : (c.exhaust w).2.2.sendings = [] := by
  unfold exhaust
  dsimp only
  split <;> rfl

/-- To end the call with a value sends nothing. -/
lemma sendings_succeed {v : Json} :
    (c.succeed setup w index since endpoint v).2.2.sendings = [] := by
  have hnotes := (w.ofTracker_recordSuccess setup index endpoint
    (Duration.ofMillis (w.now - since)) .call).sendings
  unfold succeed endNotes
  simp [hnotes]

/-- To give up an endpoint sends nothing. -/
lemma sendings_giveUp {failure : Rpc.Failure} :
    (c.giveUp setup w index endpoint failure).2.2.sendings = [] := by
  have hnotes := (w.ofTracker_recordFailure setup index endpoint .call).sendings
  unfold giveUp
  dsimp only
  split <;> simp [hnotes]

/-- Without a fault, a call that gives an endpoint up looks at the next one. -/
lemma giveUp_call {failure : Rpc.Failure}
    (hfault : (w.recordFailure setup index endpoint .call).2.2 = none) :
    (c.giveUp setup w index endpoint failure).2.1 =
      { c with lastFailure := some failure, phase := .looking (index + 1) } := by
  unfold giveUp
  dsimp only
  rw [hfault]

end Call

/-! ## Parts of an itinerary that are over -/

/-- A call is allowed to try an endpoint exactly where a stop at it is not excluded. -/
lemma Stop.allows_iff (stop : Stop σ) :
    (stop.reached.eligibility setup stop.index stop.endpoint).1.allows = true ↔
      ¬ stop.Excluded setup := by
  show decide (Eligibility.judge _ _ _ = .eligible) = true ↔ _
  rw [decide_eq_true_iff, Eligibility.judge_eq_eligible_iff]
  unfold Excluded Registry.isLast
  simp only [not_or, Bool.not_eq_true, not_and, decide_eq_true_eq, ne_eq, Classical.not_not]
  tauto

namespace Itinerary

variable {settings : Settings} {request : Rpc.Request} {stops before : Itinerary σ} {stop : Stop σ}
  {past : List (World σ)} {w : World σ}

/-- The stops are the first ones of the registry, and those were skipped that may not be tried. -/
structure Reached (setup : Setup σ) (stops : Itinerary σ) : Prop where
  indices : stops.map Stop.index = List.range stops.length
  endpoints : ∀ stop ∈ stops, setup.registry.get? stop.index = some stop.endpoint
  skipped_iff : ∀ stop ∈ stops, stop.sends = [] ↔ stop.Excluded setup

/-- The stops are the first ones of the registry, and each of them was skipped or has failed. -/
structure Over (setup : Setup σ) (settings : Settings) (request : Rpc.Request)
    (stops : Itinerary σ) : Prop extends stops.Reached setup where
  spent : ∀ stop ∈ stops, stop.sends ≠ [] → stop.Spent setup settings request

/-- All stops but the last one are over. The last one is a visit at which the past attempts have
failed and there is one left. -/
structure Visiting (setup : Setup σ) (settings : Settings) (request : Rpc.Request)
    (stops before : Itinerary σ) (stop : Stop σ) (past : List (World σ)) : Prop where
  stops_eq : stops = before ++ [stop]
  earlier : before.Over setup settings request
  index : stop.index = before.length
  endpoint : setup.registry.get? before.length = some stop.endpoint
  admitted : ¬ stop.Excluded setup
  failed : ∀ w ∈ past, (w.failure? setup stop.endpoint request).isSome
  left : past.length < stop.endpoint.budget settings

/-- No stops at all are over. -/
lemma over_nil : Over setup settings request [] where
  indices := rfl
  endpoints := by simp
  skipped_iff := by simp
  spent := by simp

/-- One more stop, at the next index, is reached after those before it. -/
lemma Reached.concat (h : before.Reached setup) (hindex : stop.index = before.length)
    (hget : setup.registry.get? before.length = some stop.endpoint)
    (hskipped : stop.sends = [] ↔ stop.Excluded setup) : Reached setup (before ++ [stop]) where
  indices := by
    rw [List.map_append, h.indices, List.length_append, List.length_singleton, List.range_succ,
      List.map_singleton, hindex]
  endpoints := by
    intro other hother
    rcases List.mem_append.mp hother with hbefore | hlast
    · exact h.endpoints other hbefore
    · obtain rfl := List.mem_singleton.mp hlast
      rw [hindex]
      exact hget
  skipped_iff := by
    intro other hother
    rcases List.mem_append.mp hother with hbefore | hlast
    · exact h.skipped_iff other hbefore
    · obtain rfl := List.mem_singleton.mp hlast
      exact hskipped

/-- At a stop that is over, no more is sent than its budget allows, and all but the last sending
failed. -/
lemma Over.tried (h : stops.Over setup settings request) (hstop : stop ∈ stops) :
    stop.sends.length ≤ stop.endpoint.budget settings ∧
      ∀ w ∈ stop.sends.dropLast, (w.failure? setup stop.endpoint request).isSome := by
  by_cases hsends : stop.sends = []
  · simp [hsends]
  · obtain ⟨hlength, hfailed⟩ := h.spent stop hstop hsends
    exact ⟨Nat.le_of_eq hlength, fun w hw => hfailed w (List.dropLast_subset _ hw)⟩

/-- One more stop at the next index that was skipped or has failed. -/
lemma Over.concat (h : before.Over setup settings request) (hindex : stop.index = before.length)
    (hget : setup.registry.get? before.length = some stop.endpoint)
    (hskipped : stop.sends = [] ↔ stop.Excluded setup)
    (hspent : stop.sends ≠ [] → stop.Spent setup settings request) :
    Over setup settings request (before ++ [stop]) where
  toReached := h.toReached.concat hindex hget hskipped
  spent := by
    intro other hother
    rcases List.mem_append.mp hother with hbefore | hlast
    · exact h.spent other hbefore
    · obtain rfl := List.mem_singleton.mp hlast
      exact hspent

/-- An attempt that is over brought no value. -/
lemma Over.value?_eq_none (h : stops.Over setup settings request)
    (hattempt : (stop, w) ∈ stops.attempts) : w.value? setup stop.endpoint request = none := by
  obtain ⟨other, hother, hmem⟩ := List.mem_flatMap.mp hattempt
  obtain ⟨x, hx, heq⟩ := List.mem_map.mp hmem
  obtain ⟨rfl, rfl⟩ := Prod.ext_iff.mp heq
  have hspent := h.spent other hother (List.ne_nil_of_mem hx)
  exact World.value?_eq_none_of_failure? (hspent.2 x hx)

/-- The stops are those of the whole registry if there is no endpoint at the next index. -/
lemma Over.length_eq_size (h : stops.Over setup settings request)
    (hnone : setup.registry.get? stops.length = none) : stops.length = setup.registry.size := by
  refine Nat.le_antisymm ?_ (List.getElem?_eq_none_iff.mp hnone)
  rcases List.eq_nil_or_concat stops with rfl | ⟨before, stop, rfl⟩
  · exact Nat.zero_le _
  · rw [List.concat_eq_append] at h ⊢
    have hget := h.endpoints stop (List.mem_append_right _ (List.mem_singleton_self stop))
    have hlt : stop.index < setup.registry.size := (List.getElem?_eq_some_iff.mp hget).1
    have hindex : stop.index = before.length := by
      have hindices := h.indices
      rw [List.map_append, List.length_append, List.length_singleton, List.range_succ] at hindices
      exact List.singleton_inj.mp (List.append_inj' hindices rfl).2
    rw [List.length_append, List.length_singleton]
    omega

/-- The attempts at one more stop come after those before it. -/
lemma attempts_concat (before : Itinerary σ) (stop : Stop σ) :
    attempts (before ++ [stop]) = attempts before ++ stop.sends.map (stop, ·) := by
  simp [attempts]

/-- The sendings of one more stop come after those before it. -/
lemma sendings_concat (request : Rpc.Request) (before : Itinerary σ) (stop : Stop σ) :
    sendings request (before ++ [stop]) =
      sendings request before ++ stop.sends.map fun w => ⟨w.now, stop.endpoint.url, request⟩ := by
  unfold sendings
  rw [attempts_concat, List.map_append, List.map_map]
  rfl

/-- A skipped stop leaves the final failure as it was. -/
lemma finalFailure?_concat_of_skipped (request : Rpc.Request) (before : Itinerary σ)
    (h : stop.sends = []) :
    finalFailure? setup request (before ++ [stop]) = before.finalFailure? setup request := by
  unfold finalFailure?
  rw [attempts_concat, h, List.map_nil, List.append_nil]

/-- The last attempt of an itinerary is the last one at its last stop. -/
lemma getLast?_attempts_concat (before : Itinerary σ) (h : stop.sends = past ++ [w]) :
    (attempts (before ++ [stop])).getLast? = some (stop, w) := by
  rw [attempts_concat, h, List.map_append, ← List.append_assoc]
  exact List.getLast?_concat

/-- After a visit the final failure is that of its last attempt. -/
lemma finalFailure?_concat_of_visited (request : Rpc.Request) (before : Itinerary σ)
    (h : stop.sends = past ++ [w]) :
    finalFailure? setup request (before ++ [stop]) = w.failure? setup stop.endpoint request := by
  unfold finalFailure?
  rw [getLast?_attempts_concat before h]
  rfl

/-- A visit belongs to the stops that were reached once it has sent something. -/
lemma Visiting.reached (h : Visiting setup settings request stops before stop past)
    (hne : stop.sends ≠ []) : stops.Reached setup := by
  rw [h.stops_eq]
  exact h.earlier.toReached.concat h.index h.endpoint (by simp [hne, h.admitted])

/-- A visit is over when its last attempt has failed too and there is none left. -/
lemma Visiting.over_of_spent (h : Visiting setup settings request stops before stop past)
    (hsends : stop.sends = past ++ [w]) (hw : (w.failure? setup stop.endpoint request).isSome)
    (hlast : stop.endpoint.budget settings ≤ past.length + 1) :
    stops.Over setup settings request := by
  rw [h.stops_eq]
  refine h.earlier.concat h.index h.endpoint ?_ fun _ => ⟨?_, ?_⟩
  · simp [hsends, h.admitted]
  · have hleft := h.left
    rw [hsends, List.length_append, List.length_singleton]
    omega
  · intro x hx
    rw [hsends] at hx
    rcases List.mem_append.mp hx with hfailed | hone
    · exact h.failed x hfailed
    · obtain rfl := List.mem_singleton.mp hone
      exact hw

end Itinerary

/-! ## The invariant -/

namespace Call

open Itinerary

/-- What the itinerary of a call is like, by what the call does at the moment. -/
def At (setup : Setup σ) (settings : Settings) (c : Call) (stops : Itinerary σ) : Prop :=
  match c.phase with
  | .looking index =>
    index = stops.length ∧ stops.Over setup settings c.request ∧
      c.lastFailure = stops.finalFailure? setup c.request
  | .waiting index attempt since settled =>
    ∃ before stop past w, Visiting setup settings c.request stops before stop past ∧
      c.lastFailure = before.finalFailure? setup c.request ∧ stop.sends = past ++ [w] ∧
      index = before.length ∧ attempt = past.length ∧ since = w.now ∧
      settled = (w.send setup stop.endpoint c.request).1
  | .pausing index attempt _ =>
    ∃ before stop, Visiting setup settings c.request stops before stop stop.sends ∧
      c.lastFailure = before.finalFailure? setup c.request ∧ stop.sends ≠ [] ∧
      index = before.length ∧ attempt = stop.sends.length
  | .ended (.value v) =>
    ∃ before stop past w, Visiting setup settings c.request stops before stop past ∧
      stop.sends = past ++ [w] ∧ w.value? setup stop.endpoint c.request = some v
  | .ended (.error e) =>
    stops.Over setup settings c.request ∧ stops.length = setup.registry.size ∧
      e = .exhausted c.request.method (stops.finalFailure? setup c.request)
  | .ended (.fault _) => False

variable {settings : Settings} {c : Call} {w : World σ} {stops : Itinerary σ}

/-- A call that has just begun has made no stop. -/
lemma at_start (request : Rpc.Request) (now : Nat) : (start request now).At setup settings [] :=
  ⟨rfl, over_nil, rfl⟩

/-- A look at the next endpoint keeps the invariant. -/
lemma At.after_skip {index : Nat} {endpoint : Endpoint} {notes : Journal}
    (h : c.At setup settings stops) (hphase : c.phase = .looking index)
    (hget : setup.registry.get? index = some endpoint)
    (hforbids : (w.eligibility setup index endpoint).1.allows = false)
    (hquiet : notes.sendings = []) :
    At setup settings { c with phase := .looking (index + 1) } (stops.extend setup w c notes) := by
  simp only [At, hphase] at h
  obtain ⟨rfl, hover, hlast⟩ := h
  have hexcluded : (⟨stops.length, endpoint, w, []⟩ : Stop σ).Excluded setup := by
    by_contra hnot
    rw [← Stop.allows_iff] at hnot
    exact absurd (hforbids.symm.trans hnot) (by decide)
  simp only [Itinerary.extend, hphase, hget, hquiet, List.map_nil]
  refine ⟨?_, ?_, ?_⟩
  · simp
  · exact hover.concat rfl hget ⟨fun _ => hexcluded, fun _ => rfl⟩ fun hne => absurd rfl hne
  · rw [finalFailure?_concat_of_skipped c.request stops rfl]
    exact hlast

/-- The first attempt of a visit keeps the invariant. -/
lemma At.after_visit {index : Nat} {endpoint : Endpoint} {next : World σ} {notes : Journal}
    (h : c.At setup settings stops) (hphase : c.phase = .looking index)
    (hget : setup.registry.get? index = some endpoint)
    (hallows : (w.eligibility setup index endpoint).1.allows = true)
    (hnext : next = (w.eligibility setup index endpoint).2.1) (hquiet : notes.sendings = []) :
    (c.attempt setup next index 0 endpoint).2.1.At setup settings
      (stops.extend setup w c (notes ++ (c.attempt setup next index 0 endpoint).2.2)) := by
  subst hnext
  simp only [At, hphase] at h
  obtain ⟨rfl, hover, hlast⟩ := h
  simp only [Itinerary.extend, hphase, hget, Journal.sendings_append, hquiet, sendings_attempt,
    List.nil_append, List.map_singleton]
  refine ⟨stops, ⟨stops.length, endpoint, w, [w]⟩, [], w, ?_, hlast, rfl, rfl, rfl, rfl, rfl⟩
  exact {
    stops_eq := rfl
    earlier := hover
    index := rfl
    endpoint := hget
    admitted := (Stop.allows_iff ⟨stops.length, endpoint, w, [w]⟩).mp hallows
    failed := nofun
    left := endpoint.budget_pos settings }

/-- Running out of endpoints keeps the invariant. -/
lemma At.after_exhaust {index : Nat} (h : c.At setup settings stops)
    (hphase : c.phase = .looking index) (hnone : setup.registry.get? index = none) :
    (c.exhaust w).2.1.At setup settings (stops.extend setup w c (c.exhaust w).2.2) := by
  simp only [At, hphase] at h
  obtain ⟨rfl, hover, hlast⟩ := h
  simp only [Itinerary.extend, hphase, hnone]
  exact ⟨hover, hover.length_eq_size hnone, congrArg (Error.exhausted c.request.method) hlast⟩

/-- A value keeps the invariant. -/
lemma At.after_succeed {index attempt since : Nat} {settled : Rpc.Settled} {endpoint : Endpoint}
    {v : Json} (h : c.At setup settings stops)
    (hphase : c.phase = .waiting index attempt since settled)
    (hending : settled.ending = .result (.ok v)) :
    (c.succeed setup w index since endpoint v).2.1.At setup settings
      (stops.extend setup w c (c.succeed setup w index since endpoint v).2.2) := by
  simp only [At, hphase] at h
  obtain ⟨before, stop, past, x, hvisiting, -, hsends, -, -, -, rfl⟩ := h
  simp only [Itinerary.extend, hphase]
  exact ⟨before, stop, past, x, hvisiting, hsends, World.value?_of_ending hending⟩

/-- Giving up a visit whose last attempt failed keeps the invariant, unless taking this in ends in a
fault. -/
lemma At.after_giveUp {index attempt since : Nat} {settled : Rpc.Settled} {endpoint : Endpoint}
    {failure : Rpc.Failure} (h : c.At setup settings stops)
    (hphase : c.phase = .waiting index attempt since settled)
    (hget : setup.registry.get? index = some endpoint)
    (hending : settled.ending = .result (.error failure))
    (hspent : endpoint.budget settings ≤ attempt + 1)
    (hfault : (w.recordFailure setup index endpoint .call).2.2 = none) :
    (c.giveUp setup w index endpoint failure).2.1.At setup settings
      (stops.extend setup w c (c.giveUp setup w index endpoint failure).2.2) := by
  simp only [At, hphase] at h
  obtain ⟨before, stop, past, x, hvisiting, -, hsends, rfl, rfl, -, rfl⟩ := h
  obtain rfl := Option.some.inj (hget.symm.trans hvisiting.endpoint)
  have hfailure := World.failure?_of_ending hending
  rw [giveUp_call hfault]
  simp only [Itinerary.extend, hphase]
  refine ⟨?_, hvisiting.over_of_spent hsends (by rw [hfailure]; rfl) hspent, ?_⟩
  · rw [hvisiting.stops_eq]
    simp
  · rw [hvisiting.stops_eq]
    exact ((finalFailure?_concat_of_visited c.request before hsends).trans hfailure).symm

/-- The invariant does not hold of a call that has ended in a fault. -/
lemma At.recordFailure_eq_none {index : Nat} {endpoint : Endpoint} {failure : Rpc.Failure}
    (h : (c.giveUp setup w index endpoint failure).2.1.At setup settings stops) :
    (w.recordFailure setup index endpoint .call).2.2 = none := by
  cases hfault : (w.recordFailure setup index endpoint .call).2.2 with
  | none => rfl
  | some f =>
    unfold giveUp at h
    dsimp only at h
    rw [hfault] at h
    exact h.elim

/-- A pause after a failed attempt keeps the invariant. -/
lemma At.after_pause {index attempt since endsAt : Nat} {settled : Rpc.Settled}
    {endpoint : Endpoint} {failure : Rpc.Failure} {notes : Journal} (h : c.At setup settings stops)
    (hphase : c.phase = .waiting index attempt since settled)
    (hget : setup.registry.get? index = some endpoint)
    (hending : settled.ending = .result (.error failure))
    (hleft : attempt + 1 < endpoint.budget settings) :
    At setup settings { c with phase := .pausing index (attempt + 1) endsAt }
      (stops.extend setup w c notes) := by
  simp only [At, hphase] at h
  obtain ⟨before, stop, past, x, hvisiting, hlast, hsends, rfl, rfl, -, rfl⟩ := h
  obtain rfl := Option.some.inj (hget.symm.trans hvisiting.endpoint)
  have hfailure := World.failure?_of_ending hending
  simp only [Itinerary.extend, hphase]
  refine ⟨before, stop, { hvisiting with failed := ?_, left := ?_ }, hlast, ?_, rfl, ?_⟩
  · intro y hy
    rw [hsends] at hy
    rcases List.mem_append.mp hy with hpast | hone
    · exact hvisiting.failed y hpast
    · obtain rfl := List.mem_singleton.mp hone
      rw [hfailure]
      rfl
  · rw [hsends, List.length_append]
    exact hleft
  · simp [hsends]
  · simp [hsends]

/-- Another attempt after a pause keeps the invariant. -/
lemma At.after_resume {index attempt endsAt : Nat} {endpoint : Endpoint}
    (h : c.At setup settings stops) (hphase : c.phase = .pausing index attempt endsAt)
    (hget : setup.registry.get? index = some endpoint) :
    (c.attempt setup w index attempt endpoint).2.1.At setup settings
      (stops.extend setup w c (c.attempt setup w index attempt endpoint).2.2) := by
  simp only [At, hphase] at h
  obtain ⟨before, stop, hvisiting, hlast, hne, rfl, rfl⟩ := h
  obtain rfl := Option.some.inj (hget.symm.trans hvisiting.endpoint)
  have hadmitted : ¬ ({ stop with sends := stop.sends ++ [w] } : Stop σ).Excluded setup :=
    hvisiting.admitted
  simp only [Itinerary.extend, hphase, hvisiting.stops_eq, List.getLast?_concat,
    List.dropLast_concat, sendings_attempt, List.map_singleton]
  refine ⟨before, { stop with sends := stop.sends ++ [w] }, stop.sends, w, ?_, hlast, rfl, rfl, rfl,
    rfl, rfl⟩
  exact { hvisiting with stops_eq := rfl, admitted := hadmitted }

/-- Every step of a call keeps the invariant, over a transport without faults and unless taking in a
failure ends in one. -/
theorem At.after_step {out : World σ × Call × Journal} (h : c.At setup settings stops)
    (hpolicy : setup.policy = .new settings.maxRetries settings.backoffUnit)
    (htransport : setup.transport.Faultless) (htakes : c.Takes setup w out)
    (hfaultless : w.tracker.Faultless ((c.deeds setup w).map (⟨w.reading setup, ·⟩))) :
    out.2.1.At setup settings (stops.extend setup w c out.2.2) := by
  have hbudget : ∀ endpoint, (setup.policy.forEndpoint endpoint).maxAttempts =
      endpoint.budget settings := by
    intro endpoint
    rw [hpolicy, RetryPolicy.maxAttempts_forEndpoint]
  cases htakes with
  | exhaust hphase hnone => exact h.after_exhaust hphase hnone
  | skip hphase hget hforbids hquiet => exact h.after_skip hphase hget hforbids hquiet
  | visit hphase hget hallows hnext hquiet => exact h.after_visit hphase hget hallows hnext hquiet
  | crash hphase _ _ hending =>
    simp only [At, hphase] at h
    obtain ⟨before, stop, past, x, -, -, -, -, -, -, rfl⟩ := h
    exact absurd hending (World.ending_ne_fault htransport _)
  | succeed hphase _ _ hending => exact h.after_succeed hphase hending
  | giveUp hphase _ hget hending hlast =>
    rw [hbudget] at hlast
    refine h.after_giveUp hphase hget hending hlast ?_
    have hnofault := hfaultless
    simp only [deeds, hphase, hget, hending, hbudget, if_neg (Nat.not_lt.mpr hlast), List.map_cons,
      List.map_nil, Tracker.Faultless] at hnofault
    rw [World.recordFailure_fault]
    exact hnofault.1
  | pause hphase _ hget hending hleft =>
    rw [hbudget] at hleft
    exact h.after_pause hphase hget hending hleft
  | resume hphase _ hget => exact h.after_resume hphase hget

/-- What a step sends is what it adds to the itinerary. -/
lemma At.sendings_extend {out : World σ × Call × Journal} (h : c.At setup settings stops)
    (htakes : c.Takes setup w out) :
    (stops.extend setup w c out.2.2).sendings c.request =
      stops.sendings c.request ++ out.2.2.sendings := by
  cases htakes with
  | exhaust hphase hnone => simp [Itinerary.extend, hphase, hnone, sendings_exhaust]
  | skip hphase hget _ hquiet =>
    simp [Itinerary.extend, hphase, hget, hquiet, Itinerary.sendings_concat]
  | visit hphase hget _ hnext hquiet =>
    subst hnext
    simp only [Itinerary.extend, hphase, hget, Itinerary.sendings_concat, Journal.sendings_append,
      hquiet, sendings_attempt]
    rfl
  | crash hphase => simp [Itinerary.extend, hphase]
  | succeed hphase => simp [Itinerary.extend, hphase, sendings_succeed]
  | giveUp hphase => simp [Itinerary.extend, hphase, sendings_giveUp]
  | pause hphase => simp [Itinerary.extend, hphase]
  | resume hphase _ hget =>
    simp only [At, hphase] at h
    obtain ⟨before, stop, hvisiting, -, -, rfl, -⟩ := h
    obtain rfl := Option.some.inj (hget.symm.trans hvisiting.endpoint)
    simp [Itinerary.extend, hphase, hvisiting.stops_eq, Itinerary.sendings_concat, sendings_attempt]

end Call

/-! ## The number of steps -/

/-- How many steps a call makes at most from its look at an index on. -/
def Registry.stepsFrom (registry : Registry) (settings : Settings) (index : Nat) : Nat :=
  1 + ((registry.endpoints.drop index).map fun e => 2 * e.budget settings).sum

/-- An endpoint takes two steps for each attempt of its budget, and then come the others. -/
lemma Registry.stepsFrom_of_get? {registry : Registry} {settings : Settings} {index : Nat}
    {endpoint : Endpoint} (hget : registry.get? index = some endpoint) :
    registry.stepsFrom settings index =
      2 * endpoint.budget settings + registry.stepsFrom settings (index + 1) := by
  obtain ⟨hlt, hval⟩ := List.getElem?_eq_some_iff.mp hget
  unfold stepsFrom
  rw [List.drop_eq_getElem_cons hlt, hval, List.map_cons, List.sum_cons]
  omega

namespace Call

/-- How many steps a call still makes at most. -/
def remaining (setup : Setup σ) (settings : Settings) (c : Call) : Nat :=
  let budgetAt index := ((setup.registry.get? index).map (Endpoint.budget settings)).getD 0
  match c.phase with
  | .looking index => setup.registry.stepsFrom settings index
  | .waiting index attempt _ _ =>
    2 * (budgetAt index - attempt) - 1 + setup.registry.stepsFrom settings (index + 1)
  | .pausing index attempt _ =>
    2 * (budgetAt index - attempt) + setup.registry.stepsFrom settings (index + 1)
  | .ended _ => 0

/-- Every step leaves fewer of them. -/
lemma At.remaining_lt {settings : Settings} {c : Call} {w : World σ} {stops : Itinerary σ}
    {out : World σ × Call × Journal} (h : c.At setup settings stops)
    (hpolicy : setup.policy = .new settings.maxRetries settings.backoffUnit)
    (htakes : c.Takes setup w out) :
    out.2.1.remaining setup settings < c.remaining setup settings := by
  have hpos : ∀ index, 0 < setup.registry.stepsFrom settings index := by
    intro index
    unfold Registry.stepsFrom
    omega
  cases htakes with
  | exhaust hphase =>
    simp only [remaining, hphase]
    exact hpos _
  | @skip index endpoint _ hphase hget =>
    have hbudget := endpoint.budget_pos settings
    simp only [remaining, hphase, Registry.stepsFrom_of_get? hget]
    omega
  | @visit index endpoint next _ hphase hget =>
    have hbudget := endpoint.budget_pos settings
    have hwaiting : (c.attempt setup next index 0 endpoint).2.1.phase =
        .waiting index 0 next.now (next.send setup endpoint c.request).1 := rfl
    simp only [remaining, hphase, hwaiting, hget, Option.map_some, Option.getD_some,
      Registry.stepsFrom_of_get? hget]
    omega
  | @crash index _ _ _ _ _ hphase =>
    have hleft := hpos (index + 1)
    simp only [remaining, hphase]
    omega
  | @succeed index _ since _ endpoint v hphase =>
    have hended : (c.succeed setup w index since endpoint v).2.1.phase = .ended (.value v) := rfl
    have hleft := hpos (index + 1)
    simp only [remaining, hphase, hended]
    omega
  | @giveUp index _ _ _ endpoint failure hphase _ hget =>
    simp only [At, hphase] at h
    obtain ⟨before, stop, past, x, hvisiting, -, -, rfl, rfl, -, -⟩ := h
    obtain rfl := Option.some.inj (hget.symm.trans hvisiting.endpoint)
    have hleft := hvisiting.left
    have hstep := hpos (before.length + 1)
    unfold giveUp
    dsimp only
    split
    · simp only [remaining, hphase]
      omega
    · simp only [remaining, hphase, hget, Option.map_some, Option.getD_some]
      omega
  | pause hphase _ hget _ hleft =>
    rw [hpolicy, RetryPolicy.maxAttempts_forEndpoint] at hleft
    simp only [remaining, hphase, hget, Option.map_some, Option.getD_some]
    omega
  | @resume index attempt _ endpoint hphase _ hget =>
    simp only [At, hphase] at h
    obtain ⟨before, stop, hvisiting, -, -, rfl, rfl⟩ := h
    obtain rfl := Option.some.inj (hget.symm.trans hvisiting.endpoint)
    have hleft := hvisiting.left
    have hwaiting : (c.attempt setup w before.length stop.sends.length stop.endpoint).2.1.phase =
        .waiting before.length stop.sends.length w.now
          (w.send setup stop.endpoint c.request).1 := rfl
    simp only [remaining, hphase, hwaiting, hget, Option.map_some, Option.getD_some]
    omega

/-- A call that has not ended makes a step when it has waited long enough. -/
lemma At.exists_due {settings : Settings} {c : Call} {stops : Itinerary σ}
    (h : c.At setup settings stops) (hresult : c.result? = none) :
    ∃ due, ∀ w : World σ, due ≤ w.now → (c.step? setup w).isSome := by
  cases hphase : c.phase with
  | looking index =>
    refine ⟨0, fun w _ => ?_⟩
    simp [step?, hphase]
  | waiting index attempt since settled =>
    simp only [At, hphase] at h
    obtain ⟨before, stop, past, x, hvisiting, -, -, rfl, -, -, -⟩ := h
    refine ⟨since + settled.after, fun w hdue => ?_⟩
    simp [step?, hphase, hdue, hvisiting.endpoint]
  | pausing index attempt endsAt =>
    simp only [At, hphase] at h
    obtain ⟨before, stop, hvisiting, -, -, rfl, -⟩ := h
    refine ⟨endsAt, fun w hdue => ?_⟩
    simp [step?, hphase, hdue, hvisiting.endpoint]
  | ended r => simp [result?, hphase] at hresult

end Call

/-! ## From the invariant to the walk -/

namespace Call

open Itinerary

variable {settings : Settings} {c : Call} {stops : Itinerary σ}

/-- A call has a result exactly when it has ended with it. -/
lemma result?_eq_some_iff {r : CallResult} : c.result? = some r ↔ c.phase = .ended r := by
  unfold result?
  split
  case h_1 x hx => simp [hx]
  case h_2 hx => exact ⟨nofun, fun h => (hx r h).elim⟩

/-- Every stop is over, or the last one is a visit that has sent something. -/
lemma At.over_or_visiting (h : c.At setup settings stops) :
    stops.Over setup settings c.request ∨
      ∃ before stop past, Visiting setup settings c.request stops before stop past ∧
        stop.sends ≠ [] ∧ stop.sends.length ≤ past.length + 1 ∧ stop.sends.dropLast ⊆ past := by
  unfold At at h
  split at h
  case h_1 => exact Or.inl h.2.1
  case h_2 =>
    obtain ⟨before, stop, past, w, hvisiting, -, hsends, -⟩ := h
    exact Or.inr ⟨before, stop, past, hvisiting, by simp [hsends], by simp [hsends],
      by simp [hsends]⟩
  case h_3 =>
    obtain ⟨before, stop, hvisiting, -, hne, -⟩ := h
    exact Or.inr ⟨before, stop, stop.sends, hvisiting, hne, Nat.le_succ _, List.dropLast_subset _⟩
  case h_4 =>
    obtain ⟨before, stop, past, w, hvisiting, hsends, -⟩ := h
    exact Or.inr ⟨before, stop, past, hvisiting, by simp [hsends], by simp [hsends],
      by simp [hsends]⟩
  case h_5 => exact Or.inl h.1
  case h_6 => exact h.elim

/-- Wherever a call is, its stops were reached in order. -/
lemma At.reached (h : c.At setup settings stops) : stops.Reached setup := by
  rcases h.over_or_visiting with hover | ⟨before, stop, past, hvisiting, hne, -, -⟩
  · exact hover.toReached
  · exact hvisiting.reached hne

/-- An itinerary of which the invariant holds is a walk. -/
theorem At.walk (h : c.At setup settings stops) {own : Journal}
    (hsendings : own.sendings = stops.sendings c.request) : Walk setup settings c stops own where
  indices := h.reached.indices
  endpoints := h.reached.endpoints
  skipped_iff := h.reached.skipped_iff
  sendings := hsendings
  spent := by
    intro stop hstop
    rcases h.over_or_visiting with hover | ⟨before, last, past, hvisiting, -, -, -⟩
    · exact hover.spent stop (List.dropLast_subset _ hstop)
    · rw [hvisiting.stops_eq, List.dropLast_concat] at hstop
      exact hvisiting.earlier.spent stop hstop
  tried := by
    intro stop hstop
    rcases h.over_or_visiting with hover | ⟨before, last, past, hvisiting, -, hlength, hsubset⟩
    · exact hover.tried hstop
    · rw [hvisiting.stops_eq] at hstop
      rcases List.mem_append.mp hstop with hbefore | hlast
      · exact hvisiting.earlier.tried hbefore
      · obtain rfl := List.mem_singleton.mp hlast
        have hleft := hvisiting.left
        exact ⟨by omega, fun w hw => hvisiting.failed w (hsubset hw)⟩
  value_iff := by
    intro r hr v
    rw [result?_eq_some_iff] at hr
    simp only [At, hr] at h
    cases r with
    | value u =>
      obtain ⟨before, stop, past, w, hvisiting, hsends, hvalue⟩ := h
      rw [hvisiting.stops_eq, getLast?_attempts_concat before hsends]
      constructor
      · intro huv
        cases huv
        exact ⟨stop, w, rfl, hvalue⟩
      · rintro ⟨stop', w', hlast, hvalue'⟩
        cases hlast
        exact congrArg CallResult.value (Option.some.inj (hvalue.symm.trans hvalue'))
    | error e =>
      constructor
      · intro huv
        cases huv
      · rintro ⟨stop, w, hlast, hvalue⟩
        have hnone := h.1.value?_eq_none (List.mem_of_getLast? hlast)
        exact absurd (hvalue.symm.trans hnone) nofun
    | fault f => exact h.elim
  value_last := by
    intro v hr
    rw [result?_eq_some_iff] at hr
    simp only [At, hr] at h
    obtain ⟨before, stop, past, w, hvisiting, hsends, -⟩ := h
    rw [hvisiting.stops_eq]
    exact ⟨stop, List.getLast?_concat, by simp [hsends]⟩
  exhausted := by
    intro r hr hvalue
    rw [result?_eq_some_iff] at hr
    simp only [At, hr] at h
    cases r with
    | value v => exact absurd rfl (hvalue v)
    | error e =>
      obtain ⟨hover, hlength, rfl⟩ := h
      exact ⟨hlength, hover.spent, rfl⟩
    | fault f => exact h.elim

end Call

/-! ## Calls in runs -/

namespace Traffic

variable {start s s' : Traffic σ} {beats : List (Beat σ)} {notes : Journal}

/-- A call that has begun stays in the run and keeps its request. -/
lemma call_of_next? {m : Move σ} {id : Nat} {request : Rpc.Request}
    (hc : ∃ c, s.calls[id]? = some c ∧ c.request = request)
    (hnext : s.next? setup m = some (s', notes)) :
    ∃ c, s'.calls[id]? = some c ∧ c.request = request := by
  obtain ⟨c, hc, hrequest⟩ := hc
  have hlt : id < s.calls.length := (List.getElem?_eq_some_iff.mp hc).1
  have hlt' : id < s'.calls.length := Nat.lt_of_lt_of_le hlt (length_calls_of_next? hnext)
  have hc' : s'.calls[id]? = some s'.calls[id] := List.getElem?_eq_getElem hlt'
  refine ⟨s'.calls[id], hc', ?_⟩
  rcases calls_of_next? hnext hc' with ⟨d, -, hd, hstep⟩ | ⟨_, -, hid, -⟩ | ⟨-, hsame⟩
  · obtain rfl := Option.some.inj (hc.symm.trans hd)
    rw [← hrequest]
    exact Call.request_of_takes (Call.takes_of_step? hstep)
  · omega
  · obtain rfl := Option.some.inj (hc.symm.trans hsame)
    exact hrequest

/-- The call that a beat begins is in the run from then on. -/
lemma Run.call_of_beat {before later : List (Beat σ)} {b : Beat σ} {request : Rpc.Request}
    (hrun : Run setup start (before ++ b :: later) s) (hcall : b.move = .call request) :
    ∃ c, s.calls[b.before.calls.length]? = some c ∧ c.request = request := by
  refine hrun.after_beat (P := fun s => ∃ c, s.calls[b.before.calls.length]? = some c ∧
    c.request = request) ?_ fun _ _ _ _ hc hnext => call_of_next? hc hnext
  obtain ⟨-, hnext, -⟩ := hrun.cut
  rw [hcall] at hnext
  have hafter : b.after.calls = b.before.calls ++ [Call.start request b.before.world.now] := by
    obtain ⟨hafter, -⟩ := Prod.ext_iff.mp (Option.some.inj hnext)
    exact (congrArg Traffic.calls hafter).symm
  exact ⟨_, by rw [hafter, List.getElem?_concat_length], rfl⟩

/-- One more beat of a call extends its itinerary by what the beat notes. -/
lemma itinerary_concat {id : Nat} {own : List (Beat σ)} {b : Beat σ} {c : Call}
    (hc : b.before.calls[id]? = some c) :
    itinerary setup id (own ++ [b]) =
      (itinerary setup id own).extend setup b.before.world c b.notes := by
  unfold itinerary
  rw [List.foldl_append, List.foldl_cons, List.foldl_nil, hc]

/-- The invariant holds of every call in every run without faults. -/
lemma Run.call_at {settings : Settings} (hrun : Run setup start beats s) (hidle : start.calls = [])
    (hpolicy : setup.policy = .new settings.maxRetries settings.backoffUnit)
    (htransport : setup.transport.Faultless)
    (hfaultless : start.world.tracker.Faultless (log setup beats)) {id : Nat} {c : Call}
    (hc : s.calls[id]? = some c) :
    let own := ownBeats id beats
    c.At setup settings (itinerary setup id own) ∧
      (Traffic.notes own).sendings = (itinerary setup id own).sendings c.request ∧
      own.length + c.remaining setup settings ≤ setup.registry.stepsFrom settings 0 := by
  refine hrun.own_induction (P := fun own c => c.At setup settings (itinerary setup id own) ∧
    (Traffic.notes own).sendings = (itinerary setup id own).sendings c.request ∧
    own.length + c.remaining setup settings ≤ setup.registry.stepsFrom settings 0) ?_ ?_ hidle
    hfaultless hc
  · intro request now
    exact ⟨Call.at_start request now, rfl, Nat.le_of_eq (Nat.zero_add _)⟩
  · rintro own b c c' ⟨hat, hsendings, hsteps⟩ hmove hc hstep hlog
    have htakes := Call.takes_of_step? hstep
    have hdeeds : b.log setup =
        (c.deeds setup b.before.world).map (⟨b.before.world.reading setup, ·⟩) := by
      simp [Beat.log, Beat.deeds, hmove, hc, reading]
    rw [hdeeds] at hlog
    have hrequest : c'.request = c.request := Call.request_of_takes htakes
    have hadds := hat.sendings_extend htakes
    have hfewer : c'.remaining setup settings < c.remaining setup settings :=
      hat.remaining_lt hpolicy htakes
    rw [itinerary_concat hc, notes_concat, Journal.sendings_append, hsendings, hrequest]
    refine ⟨hat.after_step hpolicy htransport htakes hlog, hadds.symm, ?_⟩
    rw [List.length_append, List.length_singleton]
    exact Nat.le_trans (by omega) hsteps

/-- When a call that has not ended has waited long enough, it can make its next step. -/
lemma exists_next?_advance {settings : Settings} {id : Nat} {c : Call} {stops : Itinerary σ}
    (hc : s.calls[id]? = some c) (hat : c.At setup settings stops) (hresult : c.result? = none) :
    ∃ millis waited next left, s.next? setup (.elapse millis) = some (waited, []) ∧
      waited.next? setup (.advance id) = some (next, left) := by
  obtain ⟨due, hdue⟩ := hat.exists_due hresult
  let waited : Traffic σ := { s with world := { s.world with now := s.world.now + due } }
  have hsome := hdue waited.world (Nat.le_add_left due s.world.now)
  obtain ⟨⟨w, c', left⟩, hstep⟩ := Option.isSome_iff_exists.mp hsome
  exact ⟨due, waited, _, left, rfl, next?_advance_of_step? hc hstep⟩

/-- **Calls walk the registry.** Over a transport without faults, whatever other calls, probe cycles
and reports go on at any pace: a call that has begun goes through the endpoints as `Walk` says. It
makes a bounded number of steps, and as long as it has not ended it makes the next one when it has
waited long enough. -/
theorem call_walks_registry {configs : List EndpointConfig} {settings : Settings}
    {transport : Rpc.Transport σ} {wire : σ} {clock : Clock} {draw : Nat → Nat} {m : Manager σ}
    {built : Journal}
    (hbuild : Manager.build configs settings transport wire clock draw = .ok (m, built))
    (htransport : transport.Faultless) {before later : List (Beat σ)} {b : Beat σ}
    {request : Rpc.Request} (hrun : Run m.setup (idle m.world) (before ++ b :: later) s)
    (hcall : b.move = .call request)
    (hfaultless : m.world.tracker.Faultless (log m.setup (before ++ b :: later))) :
    let id := b.before.calls.length
    let own := ownBeats id (before ++ b :: later)
    ∃ c, s.calls[id]? = some c ∧ c.request = request ∧
      Walk m.setup settings c (itinerary m.setup id own) (Traffic.notes own) ∧
      own.length ≤ m.setup.registry.stepsFrom settings 0 ∧
      (c.result? = none → ∃ millis waited next left,
        s.next? m.setup (.elapse millis) = some (waited, []) ∧
          waited.next? m.setup (.advance id) = some (next, left)) := by
  intro id own
  obtain ⟨-, registry, -, rfl, -⟩ := Manager.build_eq_ok_iff.mp hbuild
  obtain ⟨c, hc, hrequest⟩ := hrun.call_of_beat hcall
  obtain ⟨hat, hsendings, hsteps⟩ := hrun.call_at rfl rfl htransport hfaultless hc
  refine ⟨c, hc, hrequest, hat.walk hsendings, Nat.le_trans (Nat.le_add_right _ _) hsteps, ?_⟩
  intro hresult
  exact exists_next?_advance hc hat hresult

/-- Two endpoints with one attempt each, of which the first one fails and the second one answers
null: the call ends with null, after one failed attempt at the first endpoint. -/
theorem call_walks_registry_to_the_second_endpoint :
    let settings := { Settings.standard with healthChecksEnabled := false, maxRetries := 1 }
    let flaky : Rpc.Transport Nat :=
      ⟨fun n _ _ => (⟨0, .result (if n = 0 then .error .emptyResult else .ok .null)⟩, n + 1)⟩
    ∃ m built b later s c,
      Manager.build [default, default] settings flaky 0 .standard (fun _ => 0) = .ok (m, built) ∧
      flaky.Faultless ∧ Run m.setup (idle m.world) ([] ++ b :: later) s ∧
      b.move = .call ⟨"ping", []⟩ ∧ m.world.tracker.Faultless (log m.setup ([] ++ b :: later)) ∧
      s.calls[0]? = some c ∧ c.result? = some (.value .null) ∧
      (itinerary m.setup 0 (ownBeats 0 (b :: later))).map Stop.index = [0, 1] ∧
      ∃ stop w, (itinerary m.setup 0 (ownBeats 0 (b :: later))).attempts.getLast? = some (stop, w) ∧
        w.value? m.setup stop.endpoint c.request = some .null := by
  intro settings flaky
  have hregistry : Registry.ofConfigs [default, default] = .ok _ :=
    Registry.ofConfigs_of_ordered (List.cons_ne_nil _ _) (by decide)
  let m := Manager.fresh ⟨[default, default].map Endpoint.ofConfig, by simp, by decide⟩ settings
    flaky 0 .standard fun _ => 0
  have hbuild : Manager.build [default, default] settings flaky 0 .standard (fun _ => 0) =
      .ok (m, _) := Manager.build_eq_ok_iff.mpr ⟨rfl, _, hregistry, rfl, rfl⟩
  have htransport : flaky.Faultless := fun _ _ _ _ => nofun
  have hrun : Run m.setup (idle m.world) _ _ :=
    ((((Run.nil.snoc (m := .call ⟨"ping", []⟩) rfl).snoc (m := .advance 0) rfl).snoc
      (m := .advance 0) rfl).snoc (m := .advance 0) rfl).snoc (m := .advance 0) rfl
  have hcut : Run m.setup (idle m.world) ([] ++ _ :: _) _ := hrun
  obtain ⟨c, hc, -, hwalk, -, -⟩ := call_walks_registry hbuild htransport hcut rfl (by decide)
  have hresult : c.result? = some (.value .null) := by
    obtain rfl := Option.some.inj hc
    rfl
  exact ⟨m, _, _, _, _, c, hbuild, htransport, hcut, rfl, by decide, hc, hresult, hwalk.indices,
    (hwalk.value_iff _ hresult _).mp rfl⟩

end Traffic

end Failover
