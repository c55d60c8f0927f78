import Failover.Retry
import Mathlib.Algebra.BigOperators.Intervals
import Mathlib.Order.Bounds.Basic

/-!
# The attempts of a run

A run goes through its attempts by a recursion that carries the time and the number of draws along.
Here it is written out: when each attempt starts is a sum over the attempts before it
(`RetryPolicy.startsAt`), and what the run comes to is a value (`RetryPolicy.playedFrom`) that
depends only on the attempt at which it stops. That is the first attempt that does not fail or the
last one that the policy allows, whichever comes first (`RetryPolicy.StopsAt`).
-/

namespace Failover

open Finset (sum_range_succ sum_range_zero)

/-- The failure that an attempt ended with. There is none after a success or a fault. -/
def Rpc.Settled.failure? (s : Rpc.Settled) : Option Rpc.Failure :=
  match s.ending with
  | .result (.error failure) => some failure
  | _ => none

namespace RetryPolicy

variable {p : RetryPolicy} {draw : Nat → Nat} {outcome : Nat → Rpc.Settled} {last : Nat}

/-! ## A run written out -/

/-- The pause after an attempt of a run, in which every pause takes as many draws. -/
def pauseAfter (p : RetryPolicy) (draw : Nat → Nat) (attempt : Nat) : Duration :=
  Backoff.delay attempt p.unit (draw (attempt * p.drawsPerPause))

/-- When an attempt of a run starts: after the attempts before it and the pauses between them. -/
def startsAt (p : RetryPolicy) (draw : Nat → Nat) (outcome : Nat → Rpc.Settled)
    (attempt : Nat) : Nat :=
  ∑ k ∈ Finset.range attempt, ((outcome k).after + (p.pauseAfter draw k).timerMillis)

/-- The log event of a pause, if the attempt before it failed. -/
def pauseEvent? (p : RetryPolicy) (draw : Nat → Nat) (outcome : Nat → Rpc.Settled)
    (attempt : Nat) : Option Event :=
  (outcome attempt).failure?.map (p.pauseEvent attempt (p.pauseAfter draw attempt))

/-- The run that goes through `more` attempts after attempt `attempt` and stops there. -/
def playedFrom (p : RetryPolicy) (draw : Nat → Nat) (outcome : Nat → Rpc.Settled)
    (attempt more : Nat) : Run where
  attempts := (List.range' attempt (more + 1)).map fun k => (k, p.startsAt draw outcome k)
  pauses := (List.range' attempt more).map (p.pauseAfter draw)
  ending := (outcome (attempt + more)).ending
  time := p.startsAt draw outcome (attempt + more) + (outcome (attempt + more)).after
  events := (List.range' attempt more).filterMap (p.pauseEvent? draw outcome)

/-- The attempt with which a run stops: none before it succeeds, and either this one does not fail
or there is none left. -/
structure StopsAt (p : RetryPolicy) (outcome : Nat → Rpc.Settled) (last : Nat) : Prop where
  last_lt : last < p.maxAttempts
  failed : ∀ k < last, ((outcome k).failure?).isSome
  settled : (outcome last).failure? = none ∨ last + 1 = p.maxAttempts

/-- An attempt starts when the one before it is over and the pause after it has passed. -/
lemma startsAt_succ (attempt : Nat) :
    p.startsAt draw outcome (attempt + 1) = p.startsAt draw outcome attempt +
      (outcome attempt).after + (p.pauseAfter draw attempt).timerMillis := by
  rw [startsAt, sum_range_succ, ← startsAt, Nat.add_assoc]

/-! ## The recursion -/

/-- A run that stops with an attempt has nothing after it. -/
lemma runFrom_last (h : (outcome last).failure? = none ∨ ¬ last + 1 < p.maxAttempts)
    (drawn time : Nat) :
    p.runFrom draw outcome last drawn time =
      ⟨[(last, time)], [], (outcome last).ending, time + (outcome last).after, []⟩ := by
  rw [runFrom]
  rcases hending : (outcome last).ending with ⟨_ | failure⟩ | fault
  case result.ok => rfl
  case fault => rfl
  case result.error =>
    have hmax : ¬ last + 1 < p.maxAttempts := by
      refine h.resolve_left ?_
      simp [Rpc.Settled.failure?, hending]
    simp only [next, if_neg hmax]

/-- A failed attempt with another one allowed is followed by a pause and the rest of the run. -/
lemma runFrom_of_failure {attempt : Nat} {failure : Rpc.Failure}
    (hfailure : (outcome attempt).failure? = some failure)
    (hmax : attempt + 1 < p.maxAttempts) (time : Nat) :
    p.runFrom draw outcome attempt (attempt * p.drawsPerPause) time =
      let rest := p.runFrom draw outcome (attempt + 1) ((attempt + 1) * p.drawsPerPause)
        (time + (outcome attempt).after + (p.pauseAfter draw attempt).timerMillis)
      { rest with
        attempts := (attempt, time) :: rest.attempts
        pauses := p.pauseAfter draw attempt :: rest.pauses
        events := p.pauseEvent attempt (p.pauseAfter draw attempt) failure :: rest.events } := by
  rw [runFrom, Nat.succ_mul]
  unfold Rpc.Settled.failure? at hfailure
  split at hfailure
  case h_1 failure' hending =>
    obtain rfl : failure' = failure := Option.some.inj hfailure
    simp only [hending, next, if_pos hmax, pauseAfter]
  case h_2 => cases hfailure

/-- The recursion runs as written out, from every attempt up to the one with which it stops. -/
lemma runFrom_eq_playedFrom (h : p.StopsAt outcome last) :
    ∀ more attempt, attempt + more = last →
      p.runFrom draw outcome attempt (attempt * p.drawsPerPause) (p.startsAt draw outcome attempt) =
        p.playedFrom draw outcome attempt more := by
  intro more
  induction more with
  | zero =>
    intro attempt hlast
    obtain rfl : attempt = last := hlast
    have hlast : (outcome attempt).failure? = none ∨ ¬ attempt + 1 < p.maxAttempts :=
      h.settled.imp_right (fun hmax => by omega)
    rw [runFrom_last hlast]
    rfl
  | succ more ih =>
    intro attempt hlast
    obtain ⟨failure, hfailure⟩ := Option.isSome_iff_exists.mp (h.failed attempt (by omega))
    have hmax : attempt + 1 < p.maxAttempts := by
      have := h.last_lt
      omega
    have hindex : attempt + 1 + more = attempt + (more + 1) := by omega
    have hevent : p.pauseEvent? draw outcome attempt =
        some (p.pauseEvent attempt (p.pauseAfter draw attempt) failure) := by
      rw [pauseEvent?, hfailure, Option.map_some]
    rw [runFrom_of_failure hfailure hmax, ← startsAt_succ, ih (attempt + 1) (by omega)]
    simp only [playedFrom, List.range'_succ, List.map_cons, List.filterMap_cons, hevent, hindex]

/-- A whole run, written out. -/
lemma run_eq (h : p.StopsAt outcome last) :
    p.run draw outcome =
      { attempts := (List.range (last + 1)).map fun k => (k, p.startsAt draw outcome k)
        pauses := (List.range last).map (p.pauseAfter draw)
        ending := (outcome last).ending
        time := p.startsAt draw outcome last + (outcome last).after
        events := (List.range last).filterMap (p.pauseEvent? draw outcome) } := by
  have hrun : p.runFrom draw outcome 0 (0 * p.drawsPerPause) (p.startsAt draw outcome 0) = _ :=
    runFrom_eq_playedFrom h last 0 (Nat.zero_add last)
  rw [Nat.zero_mul, startsAt, sum_range_zero] at hrun
  rw [run, hrun, playedFrom, Nat.zero_add, ← List.range_eq_range', ← List.range_eq_range']

/-! ## Where a run stops -/

/-- Every run stops, no matter how its attempts end. -/
lemma exists_stopsAt (p : RetryPolicy) (outcome : Nat → Rpc.Settled) :
    ∃ last, p.StopsAt outcome last := by
  classical
  have hpos := p.maxAttempts_pos
  have hstop : ∃ k, (outcome k).failure? = none ∨ k + 1 = p.maxAttempts :=
    ⟨p.maxAttempts - 1, .inr (by omega)⟩
  refine ⟨Nat.find hstop, ?_, ?_, Nat.find_spec hstop⟩
  · have hle : Nat.find hstop ≤ p.maxAttempts - 1 := Nat.find_min' hstop (.inr (by omega))
    omega
  · intro k hk
    have hfailed := Nat.find_min hstop hk
    exact Option.isSome_iff_ne_none.mpr fun hnone => hfailed (.inl hnone)

/-- A run stops with the first attempt that does not fail, if the policy allows it to get there. -/
lemma StopsAt.eq_of_isLeast (h : p.StopsAt outcome last) {first : Nat}
    (hfirst : IsLeast {k | (outcome k).failure? = none} first) :
    last = min first (p.maxAttempts - 1) := by
  have hmax := h.last_lt
  have hle : last ≤ first := by
    by_contra hlt
    have hfailed := h.failed first (by omega)
    rw [hfirst.1] at hfailed
    cases hfailed
  rcases h.settled with hnone | hend
  · have hge : first ≤ last := hfirst.2 hnone
    omega
  · omega

/-- A run of which every allowed attempt fails stops with the last one. -/
lemma StopsAt.eq_of_all_fail (h : p.StopsAt outcome last)
    (hfail : ∀ k < p.maxAttempts, ((outcome k).failure?).isSome) : last = p.maxAttempts - 1 := by
  rcases h.settled with hnone | hend
  · have hfailed := hfail last h.last_lt
    rw [hnone] at hfailed
    cases hfailed
  · omega

/-! ## The law -/

/-- An endpoint's own budget comes before that of the policy, and never is zero. -/
lemma maxAttempts_new_forEndpoint (budget : UInt32) (unit : Duration) (e : Endpoint) :
    ((new budget unit).forEndpoint e).maxAttempts = max 1 (e.maxRetries.getD budget).toNat := by
  unfold forEndpoint withOverride
  cases e.maxRetries <;> exact Nat.max_comm _ _

/-- The budget of an endpoint does not touch the unit of the pauses. -/
lemma unit_forEndpoint (p : RetryPolicy) (e : Endpoint) : (p.forEndpoint e).unit = p.unit := by
  unfold forEndpoint withOverride
  cases e.maxRetries <;> rfl

/-- A run that stops at an attempt has made it and all before it. -/
lemma attempts_length (h : p.StopsAt outcome last) :
    (p.run draw outcome).attempts.length = last + 1 := by
  rw [run_eq h, List.length_map, List.length_range]

/-- What a policy does that allows `allowed` attempts and counts its pauses in `unit`. -/
structure RunLaw (p : RetryPolicy) (allowed : Nat) (unit : Duration) (draw : Nat → Nat)
    (outcome : Nat → Rpc.Settled) : Prop where
  /-- There are as many attempts as it takes to get to the first one that does not fail. -/
  made_of_first : ∀ first, IsLeast {k | (outcome k).failure? = none} first →
    (p.run draw outcome).attempts.length = min (first + 1) allowed
  /-- If all of them fail, every attempt is made that is allowed. -/
  made_of_all_fail : (∀ k < allowed, (outcome k).failure?.isSome) →
    (p.run draw outcome).attempts.length = allowed
  /-- The attempts are numbered from zero, and each is made once, right after the attempts and
  pauses before it. -/
  attempts : (p.run draw outcome).attempts =
    (List.range (p.run draw outcome).attempts.length).map fun k =>
      (k, ∑ i ∈ Finset.range k, ((outcome i).after +
        (Backoff.delay i unit (draw (i * p.drawsPerPause))).timerMillis))
  /-- There is one pause between an attempt and the next, and none after the last one. -/
  pauses : (p.run draw outcome).pauses =
    (List.range ((p.run draw outcome).attempts.length - 1)).map fun k =>
      Backoff.delay k unit (draw (k * p.drawsPerPause))
  /-- Every pause follows a failure and is logged together with it. -/
  events : (p.run draw outcome).events.length = (p.run draw outcome).pauses.length ∧
    (p.run draw outcome).events =
      (List.range ((p.run draw outcome).attempts.length - 1)).filterMap fun k =>
        (outcome k).failure?.map
          (.retrying (k + 1) allowed (Backoff.delay k unit (draw (k * p.drawsPerPause))))
  /-- The run ends with the first attempt that does not fail. -/
  ending_of_first : ∀ first < allowed, IsLeast {k | (outcome k).failure? = none} first →
    (p.run draw outcome).ending = (outcome first).ending
  /-- If all of them fail, it ends with the failure of the last one. -/
  ending_of_all_fail : (∀ k < allowed, (outcome k).failure?.isSome) →
    ∃ failure, (outcome (allowed - 1)).failure? = some failure ∧
      (p.run draw outcome).ending = .result (.error failure)
  /-- It is over as soon as its last attempt is. -/
  time : ∃ last start, (p.run draw outcome).attempts.getLast? = some (last, start) ∧
    (p.run draw outcome).time = start + (outcome last).after
  /-- The number of an attempt and the next number are numbers of 32 bits. -/
  number_lt : ∀ attempt ∈ (p.run draw outcome).attempts, attempt.1 + 1 < 2 ^ 32

/-- An attempt has a failure exactly when its ending is one. -/
lemma failure?_isSome_iff {s : Rpc.Settled} :
    s.failure?.isSome ↔
      ∃ failure, s.failure? = some failure ∧ s.ending = .result (.error failure) := by
  unfold Rpc.Settled.failure?
  split
  case h_1 failure hending => simp [hending]
  case h_2 => simp

/-- **A run of attempts stops with the first success or with the last attempt.** An endpoint gets as
many attempts as it asks for, or else as the policy grants, but at least one. -/
theorem run_stops_with_first_success (budget : UInt32) (unit : Duration) (e : Endpoint)
    (draw : Nat → Nat) (outcome : Nat → Rpc.Settled) :
    RunLaw ((new budget unit).forEndpoint e) (max 1 (e.maxRetries.getD budget).toNat) unit draw
      outcome := by
  rw [← maxAttempts_new_forEndpoint budget unit e]
  generalize hp : (new budget unit).forEndpoint e = p
  obtain rfl : p.unit = unit := by
    rw [← hp, unit_forEndpoint]
    rfl
  obtain ⟨last, hlast⟩ := exists_stopsAt p outcome
  have hmade : (p.run draw outcome).attempts.length = last + 1 := attempts_length hlast
  have hpos := p.maxAttempts_pos
  have hrun : p.run draw outcome = _ := run_eq hlast
  constructor
  case made_of_first =>
    intro first hfirst
    rw [hmade, hlast.eq_of_isLeast hfirst]
    omega
  case made_of_all_fail =>
    intro hfail
    rw [hmade, hlast.eq_of_all_fail hfail]
    omega
  case attempts =>
    rw [hmade, hrun]
    rfl
  case pauses =>
    rw [hmade, hrun]
    rfl
  case events =>
    rw [hmade, hrun]
    refine ⟨?_, rfl⟩
    rw [List.length_map]
    refine List.filterMap_length_eq_length.mpr ?_
    intro k hk
    rw [pauseEvent?, Option.isSome_map]
    exact hlast.failed k (List.mem_range.mp hk)
  case ending_of_first =>
    intro first hallowed hfirst
    have hstop := hlast.eq_of_isLeast hfirst
    obtain rfl : last = first := by omega
    rw [hrun]
  case ending_of_all_fail =>
    intro hfail
    rw [← hlast.eq_of_all_fail hfail, hrun]
    exact failure?_isSome_iff.mp (hfail last hlast.last_lt)
  case time =>
    refine ⟨last, p.startsAt draw outcome last, ?_, ?_⟩
    · rw [hrun, List.range_succ, List.map_append, List.map_singleton, List.getLast?_concat]
    · rw [hrun]
  case number_lt =>
    intro attempt hattempt
    rw [hrun] at hattempt
    obtain ⟨k, hk, rfl⟩ := List.mem_map.mp hattempt
    have hlt := List.mem_range.mp hk
    have hstop := hlast.last_lt
    -- the budget itself is a number of 32 bits
    have hbound := p.maxAttempts_lt
    show k + 1 < 2 ^ 32
    omega

end RetryPolicy

end Failover
