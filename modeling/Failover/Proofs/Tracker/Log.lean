import Failover.Tracker
import Mathlib.Tactic.Common

/-!
# Logs of a tracker

Everything that a tracker is asked to do is a `Deed`, and a deed at a time is an `Entry`.
`Tracker.after` is the tracker after one entry and `Tracker.replay` the tracker after a whole log,
so a statement about every log is a statement about every run of a tracker.

Deeds are observations or questions. An observation at an index that has a record changes this
record and perhaps the breaker of one URL. A question changes no record, but it may take away
breaker entries whose time has come. The lemmas below say this once for each part of the tracker;
nothing else in the theory unfolds the operations of a tracker.
-/

namespace Failover

namespace Tracker

/-! ## Deeds and entries -/

/-- Something that a tracker is asked to do. -/
inductive Deed where
  /-- A success was observed at an index. -/
  | success (index : Nat) (endpoint : Endpoint) (latency : Duration) (observer : Observer)
  /-- A failure was observed at an index. -/
  | failure (index : Nat) (endpoint : Endpoint) (observer : Observer)
  /-- May a call try the endpoint at an index? -/
  | judge (index : Nat) (endpoint : Endpoint) (isLast : Bool)
  /-- Is the breaker of an endpoint open? -/
  | inquire (endpoint : Endpoint)
  /-- How do all endpoints stand? -/
  | survey (registry : Registry)

/-- Whether a deed is an observation, as opposed to a question. -/
def Deed.isObservation : Deed → Bool
  | .success .. | .failure .. => true
  | _ => false

/-- Whether a deed asks for the breaker of a URL. -/
def Deed.asks (key : String) : Deed → Bool
  | .judge _ endpoint _ => endpoint.url = key
  | .inquire endpoint => endpoint.url = key
  | .survey registry => registry.endpoints.any fun e => e.url = key
  | _ => false

/-- An observation names the endpoint that its index stands for in a registry. -/
def Deed.Fits (registry : Registry) : Deed → Prop
  | .success index endpoint _ _ => registry.get? index = some endpoint
  | .failure index endpoint _ => registry.get? index = some endpoint
  | _ => True

/-- A deed and what the clocks show when it is done. -/
structure Entry where
  time : Reading
  deed : Deed

/-- What happens to a tracker, in order. -/
abbrev Log := List Entry

/-- The times of a log do not go back. -/
def Chronological (log : Log) : Prop :=
  log.Pairwise fun a b => a.time.instant.nanos ≤ b.time.instant.nanos

instance (log : Log) : Decidable (Chronological log) := inferInstanceAs (Decidable (log.Pairwise _))

/-- What a tracker answers. -/
inductive Answer where
  /-- An observation was taken in; the fault in which this ended, if it did. -/
  | noted (fault : Option Fault)
  | verdict (e : Eligibility)
  | circuit (isOpen : Bool)
  | report (r : StatusReport)

/-- The tracker after an entry, and its answer. -/
def perform (t : Tracker) (e : Entry) : Tracker × Answer :=
  match e.deed with
  | .success index endpoint latency observer =>
    ((t.recordSuccess e.time index endpoint latency observer).1, .noted none)
  | .failure index endpoint observer =>
    let (next, _, fault?) := t.recordFailure e.time index endpoint observer
    (next, .noted fault?)
  | .judge index endpoint isLast =>
    let (verdict, next, _) := t.eligibility e.time.instant index endpoint isLast
    (next, .verdict verdict)
  | .inquire endpoint =>
    let (found, next, _) := t.isOpen e.time.instant endpoint
    (next, .circuit found)
  | .survey registry =>
    let (report, next, _) := t.snapshot e.time.instant registry
    (next, .report report)

/-- The result of `recordFailure` is what a failure does. -/
theorem perform_eq_recordFailure (t : Tracker) (time : Reading) (index : Nat) (endpoint : Endpoint)
    (observer : Observer) :
    t.perform ⟨time, .failure index endpoint observer⟩ =
      ((t.recordFailure time index endpoint observer).1,
        .noted (t.recordFailure time index endpoint observer).2.2) := by
  unfold perform
  dsimp only

/-- The tracker after an entry. -/
def after (t : Tracker) (e : Entry) : Tracker := (t.perform e).1

/-- The answer to an entry. -/
def answer (t : Tracker) (e : Entry) : Answer := (t.perform e).2

/-- The tracker after a log. -/
def replay (t : Tracker) (log : Log) : Tracker := log.foldl after t

/-- The fault in which an entry ends. -/
def fault? (t : Tracker) (e : Entry) : Option Fault :=
  match t.answer e with
  | .noted fault => fault
  | _ => none

/-- No entry of a log ends in a fault. -/
def Faultless (t : Tracker) : Log → Prop
  | [] => True
  | e :: rest => t.fault? e = none ∧ Faultless (t.after e) rest

instance decidableFaultless (t : Tracker) : (log : Log) → Decidable (t.Faultless log)
  | [] => isTrue trivial
  | e :: rest =>
    have := decidableFaultless (t.after e) rest
    inferInstanceAs (Decidable (_ ∧ _))

/-- Without any entries nothing happens to a tracker. -/
@[simp] theorem replay_nil (t : Tracker) : t.replay [] = t := rfl

/-- A log goes on after its first entry from the tracker that this entry leaves. -/
@[simp] theorem replay_cons (t : Tracker) (e : Entry) (log : Log) :
    t.replay (e :: log) = (t.after e).replay log := rfl

/-- A log goes on where an earlier one ended. -/
theorem replay_append (t : Tracker) (log more : Log) :
    t.replay (log ++ more) = (t.replay log).replay more := List.foldl_append

/-- The last entry of a log acts on what the entries before it leave. -/
@[simp] theorem replay_concat (t : Tracker) (log : Log) (e : Entry) :
    t.replay (log ++ [e]) = (t.replay log).after e := by
  rw [replay_append, replay_cons, replay_nil]

/-- Without any entries there is no fault. -/
@[simp] theorem faultless_nil (t : Tracker) : t.Faultless [] := trivial

/-- A log is free of faults exactly if its first part is, and its second part after that. -/
theorem faultless_append {t : Tracker} {log more : Log} :
    t.Faultless (log ++ more) ↔ t.Faultless log ∧ (t.replay log).Faultless more := by
  induction log generalizing t with
  | nil => simp
  | cons e rest ih => simp only [List.cons_append, Faultless, ih, replay_cons, and_assoc]

/-! ## What stays the same -/

/-- No entry changes the threshold. -/
@[simp] theorem after_threshold (t : Tracker) (e : Entry) :
    (t.after e).threshold = t.threshold := by
  obtain ⟨time, deed⟩ := e
  cases deed with
  | success i ep l ob =>
    simp only [after, perform, recordSuccess]
    split
    · rfl
    · cases ob <;> rfl
  | failure i ep ob =>
    simp only [after, perform, recordFailure]
    split
    · rfl
    · split
      · split <;> rfl
      · rfl
  | judge i ep l => rfl
  | inquire ep => rfl
  | survey r => exact statuses_threshold ..

/-- No entry changes the breaker timeout. -/
@[simp] theorem after_timeout (t : Tracker) (e : Entry) :
    (t.after e).breakers.timeout = t.breakers.timeout := by
  obtain ⟨time, deed⟩ := e
  cases deed with
  | success i ep l ob =>
    simp only [after, perform, recordSuccess]
    split
    · rfl
    · cases ob <;> rfl
  | failure i ep ob =>
    simp only [after, perform, recordFailure]
    split
    · rfl
    · split
      · cases h : t.breakers.trip? ep.url time.instant with
        | none => rfl
        | some p =>
          obtain ⟨u, -, rfl⟩ := Option.map_eq_some_iff.mp h
          rfl
      · rfl
  | judge i ep l => exact BreakerTable.check_timeout ..
  | inquire ep => exact BreakerTable.check_timeout ..
  | survey r => exact statuses_timeout ..

/-- No log changes the threshold. -/
@[simp] theorem replay_threshold (t : Tracker) (log : Log) :
    (t.replay log).threshold = t.threshold := by
  induction log generalizing t with
  | nil => rfl
  | cons e rest ih => rw [replay_cons, ih, after_threshold]

/-- No log changes the breaker timeout. -/
@[simp] theorem replay_timeout (t : Tracker) (log : Log) :
    (t.replay log).breakers.timeout = t.breakers.timeout := by
  induction log generalizing t with
  | nil => rfl
  | cons e rest ih => rw [replay_cons, ih, after_timeout]

end Tracker

end Failover
