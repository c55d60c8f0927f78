import Failover.Rpc.Transport
import Mathlib.Data.ENat.Lattice
import Mathlib.Order.Bounds.Basic

/-!
# Requests under a deadline

An answer arrives after its latency or never (`Rpc.Answer.arrival`). Under a deadline a request is
over when its answer arrives or the timer of the deadline fires, whichever comes first
(`Rpc.Answer.span`), and an answer in the very millisecond of the deadline still counts. Timers fire
at the first whole millisecond.
-/

namespace Failover

open Time

/-- A timer fires at the first whole millisecond at which its span is over. -/
lemma Duration.isLeast_timerMillis (d : Duration) :
    IsLeast {millis | d.nanos ≤ millis * nanosPerMilli} d.timerMillis := by
  unfold timerMillis nanosPerMilli
  constructor
  · rw [Set.mem_ofPred_eq]
    omega
  · intro millis hmillis
    rw [Set.mem_ofPred_eq] at hmillis
    omega

namespace Rpc

/-- The milliseconds after which an answer arrives. Silence never ends. -/
def Answer.arrival (a : Answer) : ℕ∞ :=
  match a.reply with
  | .silence => ⊤
  | _ => a.latency

/-- The milliseconds that a request takes under a deadline. -/
def Answer.span (deadline : Duration) (a : Answer) : Nat :=
  match a.reply with
  | .silence => deadline.timerMillis
  | _ => min a.latency deadline.timerMillis

/-- How a reply ends a request, if it does. -/
def Reply.ending? : Reply → Option Ending
  | .result r => some (.result r)
  | .fault f => some (.fault f)
  | .silence => none

namespace Answer

variable {deadline : Duration} {a : Answer}

/-- A request takes until its answer arrives or its deadline is over, whichever comes first. -/
lemma coe_span (deadline : Duration) (a : Answer) :
    (a.span deadline : ℕ∞) = min a.arrival deadline.timerMillis := by
  have hmono : Monotone (Nat.cast : ℕ → ℕ∞) := Nat.mono_cast
  unfold span arrival
  cases a.reply with
  | silence => exact (min_eq_right le_top).symm
  | result r => exact hmono.map_min
  | fault f => exact hmono.map_min

/-- No attempt takes longer than its deadline. -/
lemma span_le (deadline : Duration) (a : Answer) : a.span deadline ≤ deadline.timerMillis := by
  have hle : (a.span deadline : ℕ∞) ≤ deadline.timerMillis := by
    rw [coe_span]
    exact min_le_right _ _
  exact_mod_cast hle

/-- An answer is there by a time exactly when it is no silence and its latency has passed. -/
lemma arrival_le_iff {millis : Nat} :
    a.arrival ≤ millis ↔ a.reply ≠ .silence ∧ a.latency ≤ millis := by
  unfold arrival
  cases a.reply <;> simp

/-- An answer that arrives by the deadline is the end of its request. -/
lemma settle_of_le (h : a.arrival ≤ deadline.timerMillis) :
    a.arrival = (a.settle deadline).after ∧ a.reply.ending? = some (a.settle deadline).ending := by
  obtain ⟨hreply, hin⟩ := arrival_le_iff.mp h
  unfold arrival settle
  rw [if_pos hin]
  cases hcase : a.reply with
  | silence => exact absurd hcase hreply
  | result r => exact ⟨rfl, rfl⟩
  | fault f => exact ⟨rfl, rfl⟩

/-- Without an answer by the deadline a request ends in a timeout. -/
lemma settle_of_lt (h : deadline.timerMillis < a.arrival) :
    a.settle deadline = .timedOut deadline := by
  unfold settle
  split
  case isTrue hin =>
    have hsilent : a.reply = .silence := by
      by_contra hreply
      exact absurd (arrival_le_iff.mpr ⟨hreply, hin⟩) (not_le_of_gt h)
    rw [hsilent]
  case isFalse => rfl

/-- A settled attempt has taken the span of its answer. -/
lemma after_settle (deadline : Duration) (a : Answer) :
    (a.settle deadline).after = a.span deadline := by
  have hcoe : ((a.settle deadline).after : ℕ∞) = a.span deadline := by
    rw [coe_span]
    rcases le_or_gt a.arrival deadline.timerMillis with hin | hlate
    · rw [min_eq_left hin, (settle_of_le hin).1]
    · rw [min_eq_right hlate.le, settle_of_lt hlate]
      rfl
  exact_mod_cast hcoe

end Answer

end Rpc

end Failover
