import Failover.Proofs.Traffic.Log
import Mathlib.Tactic.Common

/-!
# The itinerary of a call

What one call of a run did is read off its own beats: at each index it made a `Stop`, and at a stop
it sent no request or some. A stop keeps the worlds in which this happened, so that what the
endpoint answers there is known, and `World.value?` and `World.failure?` say whether that came in
time.

`Walk` is what the itinerary of a call has to be like, whether the call has ended or not. It
mentions neither phases nor steps.
-/

namespace Failover

variable {σ : Type}

/-! ## Answers in time -/

/-- The transport does not end a request in a fault. -/
def Rpc.Transport.Faultless (transport : Rpc.Transport σ) : Prop :=
  ∀ wire endpoint request f, (transport.send wire endpoint request).1.reply ≠ .fault f

/-- The number of attempts that a visit to an endpoint may make. -/
def Endpoint.budget (settings : Settings) (e : Endpoint) : Nat :=
  max 1 (e.maxRetries.getD settings.maxRetries).toNat

namespace World

/-- The value that an endpoint gives in time to a request that is sent now, if it does. -/
def value? (setup : Setup σ) (w : World σ) (endpoint : Endpoint) (request : Rpc.Request) :
    Option Json :=
  let answer := (setup.transport.send w.wire endpoint request).1
  if answer.latency ≤ endpoint.timeout.timerMillis then
    match answer.reply with
    | .result (.ok v) => some v
    | _ => none
  else none

/-- Why an endpoint gives no value in time to a request that is sent now: it answers with a failure,
or not before the deadline. -/
def failure? (setup : Setup σ) (w : World σ) (endpoint : Endpoint) (request : Rpc.Request) :
    Option Rpc.Failure :=
  let answer := (setup.transport.send w.wire endpoint request).1
  if answer.latency ≤ endpoint.timeout.timerMillis then
    match answer.reply with
    | .result (.error failure) => some failure
    | .silence => some (.timeout endpoint.timeout)
    | _ => none
  else some (.timeout endpoint.timeout)

end World

/-! ## Stops -/

/-- A stop of a call at an endpoint: the world in which the call reached it, and the worlds in which
it sent its requests. -/
structure Stop (σ : Type) where
  index : Nat
  endpoint : Endpoint
  reached : World σ
  sends : List (World σ)

namespace Stop

/-- The endpoint may not be tried: its breaker is open, or it is unhealthy and not the last one. -/
def Excluded (setup : Setup σ) (stop : Stop σ) : Prop :=
  (stop.reached.tracker.isOpen (stop.reached.reading setup).instant stop.endpoint).1 = true ∨
    ((stop.reached.tracker.recordAt stop.index).status = .unhealthy ∧
      stop.index + 1 ≠ setup.registry.size)

/-- Every attempt that the endpoint gets was made and failed. -/
def Spent (setup : Setup σ) (settings : Settings) (request : Rpc.Request) (stop : Stop σ) : Prop :=
  stop.sends.length = stop.endpoint.budget settings ∧
    ∀ w ∈ stop.sends, (w.failure? setup stop.endpoint request).isSome

end Stop

/-- The stops of a call in order. -/
abbrev Itinerary (σ : Type) := List (Stop σ)

namespace Itinerary

/-- The attempts in order: the stop and the world in which the request was sent. -/
def attempts (stops : Itinerary σ) : List (Stop σ × World σ) :=
  stops.flatMap fun stop => stop.sends.map (stop, ·)

/-- Why the last attempt failed, if there was one. -/
def finalFailure? (setup : Setup σ) (request : Rpc.Request) (stops : Itinerary σ) :
    Option Rpc.Failure :=
  stops.attempts.getLast?.bind fun (stop, w) => w.failure? setup stop.endpoint request

/-- What the attempts send for a request. -/
def sendings (request : Rpc.Request) (stops : Itinerary σ) : List Sending :=
  stops.attempts.map fun (stop, w) => ⟨w.now, stop.endpoint.url, request⟩

end Itinerary

/-- What the itinerary of a call and the journal of its own steps have to be like. -/
structure Walk (setup : Setup σ) (settings : Settings) (c : Call) (stops : Itinerary σ)
    (own : Journal) : Prop where
  /-- The call reaches the endpoints in registry order and each of them once. -/
  indices : stops.map Stop.index = List.range stops.length
  endpoints : ∀ stop ∈ stops, setup.registry.get? stop.index = some stop.endpoint
  /-- It skips those that may not be tried and visits all others. -/
  skipped_iff : ∀ stop ∈ stops, stop.sends = [] ↔ stop.Excluded setup
  /-- What it sends are the attempts, and each carries its own request. -/
  sendings : own.sendings = stops.sendings c.request
  /-- It goes on to another endpoint only when every attempt was made and failed. -/
  spent : ∀ stop ∈ stops.dropLast, stop.sends ≠ [] → stop.Spent setup settings c.request
  /-- A visit makes another attempt only when the one before failed and there is one left. -/
  tried : ∀ stop ∈ stops, stop.sends.length ≤ stop.endpoint.budget settings ∧
    ∀ w ∈ stop.sends.dropLast, (w.failure? setup stop.endpoint c.request).isSome
  /-- When it has ended, its result is a value exactly if the last attempt brought this value. -/
  value_iff : ∀ r, c.result? = some r → ∀ v, r = .value v ↔
    ∃ stop w, stops.attempts.getLast? = some (stop, w) ∧
      w.value? setup stop.endpoint c.request = some v
  /-- After a value no other endpoint is looked at. -/
  value_last : ∀ v, c.result? = some (.value v) →
    ∃ stop, stops.getLast? = some stop ∧ stop.sends ≠ []
  /-- Without a value every endpoint was skipped or failed, and the last failure is the result. -/
  exhausted : ∀ r, c.result? = some r → (∀ v, r ≠ .value v) →
    stops.length = setup.registry.size ∧
      (∀ stop ∈ stops, stop.sends ≠ [] → stop.Spent setup settings c.request) ∧
      r = .error (.exhausted c.request.method (stops.finalFailure? setup c.request))

/-! ## The itinerary of a call in a run -/

/-- The itinerary after a step of the call in a world that left these notes. A look at an endpoint
is a new stop, and what is sent after a pause belongs to the last one. -/
def Itinerary.extend (setup : Setup σ) (stops : Itinerary σ) (w : World σ) (c : Call)
    (notes : Journal) : Itinerary σ :=
  let sent := notes.sendings.map fun _ => w
  match c.phase with
  | .looking index =>
    match setup.registry.get? index with
    | some endpoint => stops ++ [⟨index, endpoint, w, sent⟩]
    | none => stops
  | .pausing .. =>
    match stops.getLast? with
    | some stop => stops.dropLast ++ [{ stop with sends := stop.sends ++ sent }]
    | none => stops
  | _ => stops

/-- Whether a move is a step of the call with a number. -/
def Move.advances (id : Nat) : Move σ → Bool
  | .advance i => i = id
  | _ => false

/-- The only move that advances a visitor is its own. -/
lemma Move.advances_iff {id : Nat} {m : Move σ} : m.advances id = true ↔ m = .advance id := by
  cases m <;> simp [advances]

namespace Traffic

/-- The beats of a run in which the call with a number made a step. -/
def ownBeats (id : Nat) (beats : List (Beat σ)) : List (Beat σ) :=
  beats.filter fun b => b.move.advances id

/-- What beats left in the journal. -/
def notes (beats : List (Beat σ)) : Journal := beats.flatMap Beat.notes

/-- The itinerary of a call that makes its steps in these beats. -/
def itinerary (setup : Setup σ) (id : Nat) (own : List (Beat σ)) : Itinerary σ :=
  own.foldl (fun stops b => match b.before.calls[id]? with
    | some c => stops.extend setup b.before.world c b.notes
    | none => stops) []

variable {setup : Setup σ} {start s : Traffic σ} {beats : List (Beat σ)}

/-- One more beat is a visitor's own exactly when its move advances that visitor. -/
lemma ownBeats_concat (id : Nat) (beats : List (Beat σ)) (b : Beat σ) :
    ownBeats id (beats ++ [b]) =
      if b.move.advances id then ownBeats id beats ++ [b] else ownBeats id beats := by
  unfold ownBeats
  rw [List.filter_append]
  cases h : b.move.advances id <;> simp [h]

/-- The notes of one more beat stand at the end. -/
lemma notes_concat (beats : List (Beat σ)) (b : Beat σ) :
    notes (beats ++ [b]) = notes beats ++ b.notes := by
  simp [notes]

/-- A call that has not begun has made no step. -/
lemma Run.ownBeats_eq_nil (h : Run setup start beats s) {id : Nat} (hid : s.calls.length ≤ id) :
    ownBeats id beats = [] := by
  induction h with
  | nil => rfl
  | @snoc beats s m s' notes _ hnext ih =>
    have hcalls := length_calls_of_next? hnext
    rw [ownBeats_concat, ih (Nat.le_trans hcalls hid), if_neg]
    intro hadvances
    obtain rfl := Move.advances_iff.mp hadvances
    obtain ⟨c, -, hc, -⟩ := next?_advance_eq_some hnext
    have hlt := (List.getElem?_eq_some_iff.mp hc).1
    omega

/-- What holds of a call when it begins and is kept by each of its own steps holds of it in every
run in which no fault was observed, whatever goes on between its steps. -/
lemma Run.own_induction {id : Nat} {P : List (Beat σ) → Call → Prop}
    (hstart : ∀ request now, P [] (Call.start request now))
    (hstep : ∀ own b c c', P own c → b.move = .advance id → b.before.calls[id]? = some c →
      c.step? setup b.before.world = some (b.after.world, c', b.notes) →
      b.before.world.tracker.Faultless (b.log setup) → P (own ++ [b]) c')
    (hrun : Run setup start beats s) (hidle : start.calls = [])
    (hfaultless : start.world.tracker.Faultless (log setup beats)) {c : Call}
    (hc : s.calls[id]? = some c) : P (ownBeats id beats) c := by
  induction hrun generalizing c with
  | nil => simp [hidle] at hc
  | @snoc beats s m s' notes hrun hnext ih =>
    rw [log_concat] at hfaultless
    obtain ⟨hpast, hlast⟩ := Tracker.faultless_append.mp hfaultless
    rw [← hrun.tracker] at hlast
    rw [ownBeats_concat]
    rcases calls_of_next? hnext hc with
      ⟨d, rfl, hd, hstep'⟩ | ⟨request, rfl, hid, rfl⟩ | ⟨hm, hsame⟩
    · rw [if_pos (by simp [Move.advances])]
      exact hstep _ _ d c (ih hpast hd) rfl hd hstep' hlast
    · rw [if_neg (by simp [Move.advances]), hrun.ownBeats_eq_nil (Nat.le_of_eq hid)]
      exact hstart request _
    · rw [if_neg (fun hadvances => hm (Move.advances_iff.mp hadvances))]
      exact ih hpast hsame

end Traffic

end Failover
