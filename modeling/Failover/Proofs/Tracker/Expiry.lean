import Failover.Proofs.Tracker.History
import Mathlib.Data.List.Induction
import Mathlib.Tactic.Common

/-!
# Breakers that expire lazily

There is no timer behind a breaker: an entry whose time has come stays in the table until somebody
asks for its URL. `Tracker.HeldOpen` says when a breaker is open without mentioning the table: a
failure tripped it, no call success released it since, and the timeout after the latest trip has not
passed. The main theorem says that a tracker on a clock that does not go back answers every question
as if its breakers closed by themselves at that very instant.

The invariant is `Tracker.Agrees`, between the table and the time of the latest trip
(`Tracker.heldFrom?`, computed along the log): the entry of a URL is the one of its latest trip, but
it may be gone once its time has come. The clock is what makes this enough, because a question after
that time would not have found the breaker open either.
-/

namespace Failover

namespace Tracker

/-! ## Trips and releases -/

/-- Whether an entry trips the breaker of a URL: a failure at an index in range, of an endpoint with
this URL, after which the record is unhealthy. -/
def trips (t : Tracker) (key : String) (e : Entry) : Bool :=
  match e.deed with
  | .failure index endpoint _ =>
    endpoint.url = key && index < t.records.length &&
      ((t.after e).recordAt index).status = .unhealthy
  | _ => false

/-- Whether an entry releases the breaker of a URL: a call success at an index in range, of an
endpoint with this URL. -/
def releases (t : Tracker) (key : String) (e : Entry) : Bool :=
  match e.deed with
  | .success index endpoint _ .call => endpoint.url = key && index < t.records.length
  | _ => false

/-- The latest trip of the breaker of a URL in a log was at a time, and nothing in the log released
the breaker after it. -/
def TrippedAt (t : Tracker) (log : Log) (key : String) (since : Instant) : Prop :=
  ∃ before e later, log = before ++ e :: later ∧ (t.replay before).trips key e = true ∧
    e.time.instant = since ∧
    ∀ mid f rest, later = mid ++ f :: rest →
      (t.replay (before ++ e :: mid)).trips key f = false ∧
        (t.replay (before ++ e :: mid)).releases key f = false

/-- The breaker of a URL would be open at a time after a log if breakers closed by themselves. -/
def HeldOpen (t : Tracker) (log : Log) (key : String) (now : Instant) : Prop :=
  ∃ since, t.TrippedAt log key since ∧ now.nanos < since.nanos + t.breakers.timeout.nanos

/-- The observations of a log, without its questions. -/
def observations (log : Log) : Log := log.filter fun e => e.deed.isObservation

/-! ## What an entry does to the breaker of a URL -/

/-- Every index below the number of records has one. -/
lemma record?_of_lt {t : Tracker} {index : Nat} (h : index < t.records.length) :
    ∃ r, t.record? index = some r := ⟨t.records[index], List.getElem?_eq_getElem h⟩

/-- The record at an index is the one that is there. -/
lemma recordAt_of_record? {t : Tracker} {index : Nat} {r : HealthRecord}
    (h : t.record? index = some r) : t.recordAt index = r := by
  rw [recordAt, h]
  rfl

/-- The record at an index takes in what is observed there. -/
lemma recordAt_after_of_observation? {t : Tracker} {index : Nat} {r : HealthRecord} {e : Entry}
    {o : Observation} (h : t.record? index = some r) (he : e.observation? index = some o) :
    (t.after e).recordAt index = r.observe t.threshold o := by
  apply recordAt_of_record?
  rw [record?_after, h, he]
  rfl

/-- A failure is observed by the record of its endpoint. -/
lemma recordAt_after_failure {t : Tracker} {index : Nat} {r : HealthRecord}
    (h : t.record? index = some r) (time : Reading) (endpoint : Endpoint) (observer : Observer) :
    (t.after ⟨time, .failure index endpoint observer⟩).recordAt index =
      r.observe t.threshold ⟨observer, time.wall, none⟩ :=
  recordAt_after_of_observation? h (by simp [Entry.observation?, Entry.observed?])

/-- A failure ends in a fault exactly if it would open a breaker beyond what the clock can show. -/
lemma fault?_failure {t : Tracker} {index : Nat} {r : HealthRecord} (h : t.record? index = some r)
    (time : Reading) (endpoint : Endpoint) (observer : Observer) :
    t.fault? ⟨time, .failure index endpoint observer⟩ =
      if (r.observe t.threshold ⟨observer, time.wall, none⟩).status = .unhealthy ∧
          time.instant.after? t.breakers.timeout = none then some .clockOverflow
      else none := by
  unfold fault? answer
  rw [perform_failure h]
  by_cases hstatus : (r.observe t.threshold ⟨observer, time.wall, none⟩).status = .unhealthy
  · cases time.instant.after? t.breakers.timeout <;> simp [hstatus]
  · simp [hstatus]

/-- A trip without a fault sets the entry to one timeout later. -/
lemma until?_after_of_trips {t : Tracker} {key : String} {e : Entry} (htrips : t.trips key e = true)
    (hfault : t.fault? e = none) :
    (t.after e).breakers.until? key =
      some ⟨e.time.instant.nanos + t.breakers.timeout.nanos⟩ := by
  obtain ⟨time, deed⟩ := e
  cases deed with
  | failure index endpoint observer =>
    simp only [trips, Bool.and_eq_true, decide_eq_true_eq] at htrips
    obtain ⟨⟨rfl, hlt⟩, hstatus⟩ := htrips
    obtain ⟨r, hr⟩ := record?_of_lt hlt
    rw [recordAt_after_failure hr] at hstatus
    rw [fault?_failure hr] at hfault
    cases hend : time.instant.after? t.breakers.timeout with
    | none => simp [hstatus, hend] at hfault
    | some endsAt =>
      obtain ⟨-, hnanos⟩ := Instant.after?_eq_some_iff.mp hend
      rw [after, perform_failure hr]
      simp [hstatus, hend, BreakerTable.until?_insert, ← hnanos]
  | success index endpoint latency observer => cases htrips
  | judge index endpoint isLast => cases htrips
  | inquire endpoint => cases htrips
  | survey registry => cases htrips

/-- A release takes the entry away. -/
lemma until?_after_of_releases {t : Tracker} {key : String} {e : Entry}
    (hreleases : t.releases key e = true) : (t.after e).breakers.until? key = none := by
  obtain ⟨time, deed⟩ := e
  cases deed with
  | success index endpoint latency observer =>
    cases observer with
    | probe => cases hreleases
    | call =>
      simp only [releases, Bool.and_eq_true, decide_eq_true_eq] at hreleases
      obtain ⟨rfl, hlt⟩ := hreleases
      obtain ⟨r, hr⟩ := record?_of_lt hlt
      rw [after, perform_success hr]
      simp [BreakerTable.until?_erase]
  | failure index endpoint observer => cases hreleases
  | judge index endpoint isLast => cases hreleases
  | inquire endpoint => cases hreleases
  | survey registry => cases hreleases

/-- Any other entry takes the entry away if it asks for it after its time, and else leaves it. -/
lemma until?_after_of_neither {t : Tracker} {key : String} {e : Entry}
    (htrips : t.trips key e = false) (hreleases : t.releases key e = false) :
    (t.after e).breakers.until? key =
      if e.deed.asks key then (t.breakers.until? key).filter e.time.instant.before
      else t.breakers.until? key := by
  obtain ⟨time, deed⟩ := e
  cases deed with
  | success index endpoint latency observer =>
    show _ = t.breakers.until? key
    cases hr : t.record? index with
    | none => rw [after, perform_of_record?_eq_none rfl hr]
    | some r =>
      rw [after, perform_success hr]
      cases observer with
      | probe => rfl
      | call =>
        have hlt : index < t.records.length := (List.getElem?_eq_some_iff.mp hr).1
        have hne : key ≠ endpoint.url := by
          intro h
          simp [releases, h, hlt] at hreleases
        simp [BreakerTable.until?_erase, hne]
  | failure index endpoint observer =>
    show _ = t.breakers.until? key
    cases hr : t.record? index with
    | none => rw [after, perform_of_record?_eq_none rfl hr]
    | some r =>
      have hlt : index < t.records.length := (List.getElem?_eq_some_iff.mp hr).1
      have hstatus := recordAt_after_failure hr time endpoint observer
      rw [after, perform_failure hr]
      dsimp only
      split
      case isFalse => rfl
      case isTrue hunhealthy =>
        have hne : key ≠ endpoint.url := by
          intro h
          simp [trips, h, hlt, hstatus, hunhealthy] at htrips
        cases time.instant.after? t.breakers.timeout with
        | none => rfl
        | some endsAt => simp [BreakerTable.until?_insert, hne]
  | judge index endpoint isLast =>
    show (t.breakers.check endpoint.url time.instant).2.until? key = _
    rw [BreakerTable.until?_check]
    simp [Deed.asks, eq_comm]
  | inquire endpoint =>
    show (t.breakers.check endpoint.url time.instant).2.until? key = _
    rw [BreakerTable.until?_check]
    simp [Deed.asks, eq_comm]
  | survey registry => exact until?_statuses ..

/-! ## The latest trip along a log -/

/-- The time of the latest trip that was not released, after one more entry. -/
def heldAfter (t : Tracker) (key : String) (held : Option Instant) (e : Entry) : Option Instant :=
  if t.trips key e then some e.time.instant
  else if t.releases key e then none
  else held

/-- The time of the latest trip that was not released, after a log. -/
def heldFrom? (key : String) : Tracker → Option Instant → Log → Option Instant
  | _, held, [] => held
  | t, held, e :: rest => heldFrom? key (t.after e) (t.heldAfter key held e) rest

/-- What holds a key after one more entry comes from what held it before. -/
lemma heldFrom?_concat (t : Tracker) (key : String) (held : Option Instant) (log : Log)
    (e : Entry) :
    heldFrom? key t held (log ++ [e]) =
      (t.replay log).heldAfter key (heldFrom? key t held log) e := by
  induction log generalizing t held with
  | nil => rfl
  | cons f rest ih => exact ih (t.after f) (t.heldAfter key held f)

/-- Nothing trips in an empty log. -/
lemma not_trippedAt_nil (t : Tracker) (key : String) (since : Instant) :
    ¬ t.TrippedAt [] key since := by
  rintro ⟨before, e, later, hsplit, -⟩
  simp at hsplit

/-- Whoever stands in a list with one more element is this element or stands before it. -/
lemma append_cons_eq_concat {α : Type} {before later list : List α} {a b : α} :
    list ++ [b] = before ++ a :: later ↔
      (later = [] ∧ before = list ∧ a = b) ∨
        ∃ rest, later = rest ++ [b] ∧ list = before ++ a :: rest := by
  constructor
  · intro h
    rcases List.eq_nil_or_concat later with rfl | ⟨rest, x, rfl⟩
    · obtain ⟨rfl, hb⟩ := List.append_inj' h rfl
      cases hb
      exact Or.inl ⟨rfl, rfl, rfl⟩
    · rw [List.concat_eq_append, ← List.cons_append, ← List.append_assoc] at h
      obtain ⟨rfl, hb⟩ := List.append_inj' h rfl
      cases hb
      exact Or.inr ⟨rest, List.concat_eq_append .., rfl⟩
  · rintro (⟨rfl, rfl, rfl⟩ | ⟨rest, rfl, rfl⟩)
    · rfl
    · simp

/-- How one more entry changes the time of the latest trip. -/
lemma trippedAt_concat {t : Tracker} {log : Log} {e : Entry} {key : String} {since : Instant} :
    t.TrippedAt (log ++ [e]) key since ↔
      ((t.replay log).trips key e = true ∧ e.time.instant = since) ∨
        ((t.replay log).trips key e = false ∧ (t.replay log).releases key e = false ∧
          t.TrippedAt log key since) := by
  constructor
  · rintro ⟨before, f, later, hsplit, htrips, hsince, hlater⟩
    rcases append_cons_eq_concat.mp hsplit with ⟨rfl, rfl, rfl⟩ | ⟨later, rfl, rfl⟩
    · exact Or.inl ⟨htrips, hsince⟩
    · obtain ⟨hkeep, hstay⟩ := hlater later e [] rfl
      refine Or.inr ⟨hkeep, hstay, before, f, later, rfl, htrips, hsince, ?_⟩
      intro mid g rest hmid
      exact hlater mid g (rest ++ [e]) (by simp [hmid])
  · rintro (⟨htrips, hsince⟩ | ⟨hkeep, hstay, before, f, later, rfl, htrips, hsince, hlater⟩)
    · exact ⟨log, e, [], rfl, htrips, hsince, by simp⟩
    · refine ⟨before, f, later ++ [e], by simp, htrips, hsince, ?_⟩
      intro mid g rest hmid
      rcases append_cons_eq_concat.mp hmid with ⟨rfl, rfl, rfl⟩ | ⟨rest, rfl, rfl⟩
      · exact ⟨hkeep, hstay⟩
      · exact hlater mid g rest rfl

/-- The time that is carried along a log is the one that `TrippedAt` describes. -/
lemma heldFrom?_eq_some_iff {t : Tracker} {log : Log} {key : String} {since : Instant} :
    heldFrom? key t none log = some since ↔ t.TrippedAt log key since := by
  induction log using List.reverseRecOn with
  | nil => simp [heldFrom?, not_trippedAt_nil]
  | append_singleton log e ih =>
    rw [heldFrom?_concat, heldAfter, trippedAt_concat, ← ih]
    cases (t.replay log).trips key e <;> cases (t.replay log).releases key e <;> simp

/-! ## The invariant -/

/-- The entry of a URL is the one of its latest trip, but it may be gone once its time has come. -/
def Agrees (t : Tracker) (key : String) (held : Option Instant) (now : Instant) : Prop :=
  match held with
  | none => t.breakers.until? key = none
  | some since =>
    t.breakers.until? key = some ⟨since.nanos + t.breakers.timeout.nanos⟩ ∨
      (t.breakers.until? key = none ∧ since.nanos + t.breakers.timeout.nanos ≤ now.nanos)

/-- Agreement at an instant lasts to every later one. -/
lemma Agrees.mono {t : Tracker} {key : String} {held : Option Instant} {now later : Instant}
    (h : t.Agrees key held now) (hle : now.nanos ≤ later.nanos) : t.Agrees key held later := by
  cases held with
  | none => exact h
  | some since =>
    rcases h with hentry | ⟨hgone, htime⟩
    · exact Or.inl hentry
    · exact Or.inr ⟨hgone, Nat.le_trans htime hle⟩

/-- One entry keeps the invariant. -/
lemma Agrees.after {t : Tracker} {key : String} {held : Option Instant} {e : Entry}
    (h : t.Agrees key held e.time.instant) (hfault : t.fault? e = none) :
    (t.after e).Agrees key (t.heldAfter key held e) e.time.instant := by
  unfold heldAfter
  cases htrips : t.trips key e with
  | true =>
    rw [if_pos rfl]
    left
    rw [until?_after_of_trips htrips hfault, after_timeout]
  | false =>
    rw [if_neg Bool.false_ne_true]
    cases hreleases : t.releases key e with
    | true => exact until?_after_of_releases hreleases
    | false =>
      rw [if_neg Bool.false_ne_true]
      have hentry := until?_after_of_neither htrips hreleases
      cases held with
      | none =>
        have hnone : t.breakers.until? key = none := h
        simp only [Agrees, hentry, hnone, Option.filter_none, ite_self]
      | some since =>
        simp only [Agrees, hentry, after_timeout]
        rcases h with hsome | ⟨hgone, htime⟩
        · by_cases hcheck :
              e.deed.asks key = true ∧ since.nanos + t.breakers.timeout.nanos ≤ e.time.instant.nanos
          · obtain ⟨hasks, htime⟩ := hcheck
            right
            simp [hsome, hasks, Option.filter, Instant.before, htime]
          · left
            cases hasks : e.deed.asks key with
            | false => simp [hsome]
            | true =>
              have hahead : e.time.instant.nanos < since.nanos + t.breakers.timeout.nanos := by
                by_contra hnot
                exact hcheck ⟨hasks, Nat.le_of_not_lt hnot⟩
              simp [hsome, Option.filter, Instant.before, hahead]
        · right
          simp [hgone, htime]

/-- A whole log keeps the invariant, if the clock does not go back. -/
lemma Agrees.replay {t : Tracker} {key : String} {held : Option Instant} {log : Log}
    {first now : Instant} (h : t.Agrees key held first) (hchron : Chronological log)
    (hfirst : ∀ e ∈ log, first.nanos ≤ e.time.instant.nanos)
    (hnow : ∀ e ∈ log, e.time.instant.nanos ≤ now.nanos) (hle : first.nanos ≤ now.nanos)
    (hfaultless : t.Faultless log) : (t.replay log).Agrees key (heldFrom? key t held log) now := by
  induction log generalizing t held first with
  | nil => exact h.mono hle
  | cons e rest ih =>
    obtain ⟨hrest, htail⟩ := List.pairwise_cons.mp hchron
    have hnext := (h.mono (hfirst e List.mem_cons_self)).after hfaultless.1
    exact ih hnext htail hrest (fun f hf => hnow f (List.mem_cons_of_mem _ hf))
      (hnow e List.mem_cons_self) hfaultless.2

/-- Where the invariant holds, a question finds the breaker open as the latest trip says. -/
lemma Agrees.any_until? {t : Tracker} {key : String} {held : Option Instant} {now : Instant}
    (h : t.Agrees key held now) :
    (t.breakers.until? key).any now.before = true ↔
      ∃ since, held = some since ∧ now.nanos < since.nanos + t.breakers.timeout.nanos := by
  cases held with
  | none =>
    have hnone : t.breakers.until? key = none := h
    simp [hnone]
  | some since =>
    rcases h with hentry | ⟨hgone, htime⟩
    · simp [hentry, Instant.before]
    · simp [hgone]
      omega

/-- After a log, the breaker of a URL is found open exactly if it would be open without laziness. -/
lemma any_until?_replay {t : Tracker} {key : String} {log : Log} {now : Instant}
    (hclosed : t.breakers.until? key = none) (hchron : Chronological log)
    (hnow : ∀ e ∈ log, e.time.instant.nanos ≤ now.nanos) (hfaultless : t.Faultless log) :
    ((t.replay log).breakers.until? key).any now.before = true ↔ t.HeldOpen log key now := by
  have hstart : t.Agrees key none ⟨0⟩ := hclosed
  have hagrees := hstart.replay hchron (fun _ _ => Nat.zero_le _) hnow (Nat.zero_le _) hfaultless
  rw [hagrees.any_until?, replay_timeout]
  simp only [heldFrom?_eq_some_iff, HeldOpen]

/-- After a log, an endpoint is excluded by its breaker exactly if this would be open without
laziness. -/
lemma eligibility_replay_eq_breakerOpen_iff {t : Tracker} {endpoint : Endpoint} {log : Log}
    {now : Instant} (hclosed : t.breakers.until? endpoint.url = none) (hchron : Chronological log)
    (hnow : ∀ e ∈ log, e.time.instant.nanos ≤ now.nanos) (hfaultless : t.Faultless log)
    (index : Nat) (isLast : Bool) :
    ((t.replay log).eligibility now index endpoint isLast).1 = .breakerOpen ↔
      t.HeldOpen log endpoint.url now := by
  rw [eligibility_fst, Eligibility.judge_eq_breakerOpen_iff, isOpen_fst]
  exact any_until?_replay hclosed hchron hnow hfaultless

/-- There is one latest trip, so a breaker is held open exactly for one timeout after it. -/
lemma TrippedAt.heldOpen_iff {t : Tracker} {log : Log} {key : String} {since now : Instant}
    (h : t.TrippedAt log key since) :
    t.HeldOpen log key now ↔ now.nanos < since.nanos + t.breakers.timeout.nanos := by
  constructor
  · rintro ⟨other, hother, hlt⟩
    rw [← heldFrom?_eq_some_iff] at h hother
    obtain rfl := Option.some.inj (h.symm.trans hother)
    exact hlt
  · intro hlt
    exact ⟨since, h, hlt⟩

/-! ## Questions leave no trace -/

/-- Two trackers that differ only in their breaker entries. -/
structure Alike (t u : Tracker) : Prop where
  records : t.records = u.records
  threshold : t.threshold = u.threshold
  timeout : t.breakers.timeout = u.breakers.timeout

/-- A tracker is like itself. -/
lemma Alike.refl (t : Tracker) : t.Alike t := ⟨rfl, rfl, rfl⟩

/-- Trackers that are alike stay so after the same entry. -/
lemma Alike.after {t u : Tracker} (h : t.Alike u) (e : Entry) : (t.after e).Alike (u.after e) where
  records := by rw [records_after, records_after, h.records, h.threshold]
  threshold := by rw [after_threshold, after_threshold, h.threshold]
  timeout := by rw [after_timeout, after_timeout, h.timeout]

/-- A question changes breaker entries at most. -/
lemma alike_after_question {t : Tracker} {e : Entry} (h : e.deed.isObservation = false) :
    (t.after e).Alike t where
  records := by
    have hnothing : e.observed? = none := by
      obtain ⟨time, deed⟩ := e
      cases deed <;> first | rfl | cases h
    rw [records_after, hnothing]
  threshold := after_threshold t e
  timeout := after_timeout t e

/-- A question does not end in a fault, and it neither trips nor releases a breaker. -/
lemma question_inert (t : Tracker) {e : Entry} (h : e.deed.isObservation = false) :
    t.fault? e = none ∧ ∀ key held, t.heldAfter key held e = held := by
  obtain ⟨time, deed⟩ := e
  cases deed with
  | success index endpoint latency observer => cases h
  | failure index endpoint observer => cases h
  | judge index endpoint isLast => exact ⟨rfl, fun _ _ => rfl⟩
  | inquire endpoint => exact ⟨rfl, fun _ _ => rfl⟩
  | survey registry => exact ⟨rfl, fun _ _ => rfl⟩

/-- Likeness of trackers is transitive. -/
lemma Alike.trans {t u v : Tracker} (h : t.Alike u) (h' : u.Alike v) : t.Alike v :=
  ⟨h.records.trans h'.records, h.threshold.trans h'.threshold, h.timeout.trans h'.timeout⟩

/-- Trackers that are alike trip on the same entries. -/
lemma Alike.trips {t u : Tracker} (h : t.Alike u) (key : String) (e : Entry) :
    t.trips key e = u.trips key e := by
  unfold Tracker.trips recordAt record?
  rw [(h.after e).records, h.records]

/-- Trackers that are alike release on the same entries. -/
lemma Alike.releases {t u : Tracker} (h : t.Alike u) (key : String) (e : Entry) :
    t.releases key e = u.releases key e := by
  unfold Tracker.releases
  rw [h.records]

/-- Trackers that are alike hold a key alike after an entry. -/
lemma Alike.heldAfter {t u : Tracker} (h : t.Alike u) (key : String) (held : Option Instant)
    (e : Entry) : t.heldAfter key held e = u.heldAfter key held e := by
  unfold Tracker.heldAfter
  rw [h.trips, h.releases]

/-- Trackers that are alike have the same faults. -/
lemma Alike.fault? {t u : Tracker} (h : t.Alike u) (e : Entry) : t.fault? e = u.fault? e := by
  obtain ⟨time, deed⟩ := e
  cases deed with
  | failure index endpoint observer =>
    have hrecord : t.record? index = u.record? index := by
      unfold record?
      rw [h.records]
    cases hr : u.record? index with
    | none =>
      unfold Tracker.fault? answer
      rw [perform_of_record?_eq_none rfl hr, perform_of_record?_eq_none rfl (hrecord.trans hr)]
    | some r => rw [fault?_failure hr, fault?_failure (hrecord.trans hr), h.threshold, h.timeout]
  | success index endpoint latency observer => rfl
  | judge index endpoint isLast => rfl
  | inquire endpoint => rfl
  | survey registry => rfl

/-- The trackers after two logs with the same observations are alike, and they agree about the trips
of every breaker and about faults. -/
lemma Alike.replay_observations {t u : Tracker} (h : t.Alike u) (log : Log) :
    (t.replay log).Alike (u.replay (observations log)) ∧
      (∀ key held, heldFrom? key t held log = heldFrom? key u held (observations log)) ∧
      (t.Faultless log ↔ u.Faultless (observations log)) := by
  induction log generalizing t u with
  | nil => exact ⟨h, fun _ _ => rfl, Iff.rfl⟩
  | cons e rest ih =>
    cases hobserves : e.deed.isObservation with
    | true =>
      have hlog : observations (e :: rest) = e :: observations rest :=
        List.filter_cons_of_pos hobserves
      obtain ⟨halike, hheld, hfaultless⟩ := ih (h.after e)
      rw [hlog]
      refine ⟨halike, ?_, ?_⟩
      · intro key held
        simp only [heldFrom?, hheld, h.heldAfter]
      · simp only [Faultless, hfaultless, h.fault?]
    | false =>
      have hlog : observations (e :: rest) = observations rest :=
        List.filter_cons_of_neg (by simp [hobserves])
      obtain ⟨hfault, hkeep⟩ := t.question_inert hobserves
      obtain ⟨halike, hheld, hfaultless⟩ := ih ((alike_after_question hobserves).trans h)
      rw [hlog]
      refine ⟨halike, ?_, ?_⟩
      · intro key held
        simp only [heldFrom?, hheld, hkeep]
      · simp only [Faultless, hfaultless, hfault, true_and]

/-- Alike trackers that find the same breakers open give the same answer to a question. -/
lemma Alike.answer {t u : Tracker} (h : t.Alike u) {e : Entry}
    (hquestion : e.deed.isObservation = false)
    (hopen : ∀ key, (t.breakers.until? key).any e.time.instant.before =
      (u.breakers.until? key).any e.time.instant.before) : t.answer e = u.answer e := by
  have hrecord : ∀ index, t.recordAt index = u.recordAt index := by
    intro index
    unfold recordAt record?
    rw [h.records]
  obtain ⟨time, deed⟩ := e
  cases deed with
  | success index endpoint latency observer => cases hquestion
  | failure index endpoint observer => cases hquestion
  | judge index endpoint isLast =>
    show Answer.verdict (t.eligibility time.instant index endpoint isLast).1 =
      Answer.verdict (u.eligibility time.instant index endpoint isLast).1
    rw [eligibility_fst, eligibility_fst, isOpen_fst, isOpen_fst, hopen, hrecord]
  | inquire endpoint =>
    show Answer.circuit (t.isOpen time.instant endpoint).1 =
      Answer.circuit (u.isOpen time.instant endpoint).1
    rw [isOpen_fst, isOpen_fst, hopen]
  | survey registry =>
    show Answer.report ⟨(statuses time.instant t 0 registry.endpoints).1⟩ =
      Answer.report ⟨(statuses time.instant u 0 registry.endpoints).1⟩
    rw [statuses_fst, statuses_fst]
    simp only [hopen, hrecord]

/-! ## Lazy and eager breakers -/

/-- A new tracker holds no breaker open. -/
lemma new_until? (count : Nat) (threshold : UInt32) (timeout : Duration) (key : String) :
    (new count threshold timeout).breakers.until? key = none := rfl

/-- **Lazy breakers answer like eager ones.** On a clock that does not go back, and as long as no
trip leads beyond the clock, every question about the breaker of a URL is answered as the trips and
releases in the log say. Logs with the same observations leave the same records and give the same
answer to every question. A probe success changes no breaker. -/
theorem lazy_breakers_answer_like_eager (count : Nat) (threshold : UInt32) (timeout : Duration)
    (log : Log) (hchron : Chronological log)
    (hfaultless : (new count threshold timeout).Faultless log) :
    let start := new count threshold timeout
    (∀ time : Reading, (∀ e ∈ log, e.time.instant.nanos ≤ time.instant.nanos) →
      ∀ endpoint : Endpoint,
        ((start.replay log).answer ⟨time, .inquire endpoint⟩ = .circuit true ↔
          start.HeldOpen log endpoint.url time.instant) ∧
        (∀ index isLast,
          (start.replay log).answer ⟨time, .judge index endpoint isLast⟩ = .verdict .breakerOpen ↔
            start.HeldOpen log endpoint.url time.instant) ∧
        (∀ (registry : Registry) (index : Nat), registry.get? index = some endpoint →
          ∃ report entry, (start.replay log).answer ⟨time, .survey registry⟩ = .report report ∧
            report.endpoints[index]? = some entry ∧
            (entry.circuitOpen = true ↔ start.HeldOpen log endpoint.url time.instant))) ∧
    (∀ other : Log, Chronological other → observations other = observations log →
      (start.replay other).records = (start.replay log).records ∧
      ∀ question : Entry, question.deed.isObservation = false →
        (∀ e ∈ log, e.time.instant.nanos ≤ question.time.instant.nanos) →
        (∀ e ∈ other, e.time.instant.nanos ≤ question.time.instant.nanos) →
        (start.replay other).answer question = (start.replay log).answer question) ∧
    (∀ (time : Reading) (index : Nat) (endpoint : Endpoint) (latency : Duration),
      ((start.replay log).after ⟨time, .success index endpoint latency .probe⟩).breakers =
        (start.replay log).breakers) := by
  intro start
  refine ⟨?_, ?_, ?_⟩
  · intro time hnow endpoint
    have hopen := any_until?_replay (new_until? count threshold timeout endpoint.url) hchron hnow
      hfaultless
    refine ⟨?_, ?_, ?_⟩
    · show Answer.circuit ((start.replay log).isOpen time.instant endpoint).1 = .circuit true ↔ _
      rw [Answer.circuit.injEq, isOpen_fst]
      exact hopen
    · intro index isLast
      show Answer.verdict ((start.replay log).eligibility time.instant index endpoint isLast).1 =
        .verdict .breakerOpen ↔ _
      rw [Answer.verdict.injEq]
      exact eligibility_replay_eq_breakerOpen_iff (new_until? ..) hchron hnow hfaultless index
        isLast
    · intro registry index hindex
      have hget : registry.endpoints[index]? = some endpoint := hindex
      refine ⟨_, statusOf endpoint ((start.replay log).recordAt index)
        (((start.replay log).breakers.until? endpoint.url).any time.instant.before), rfl, ?_, hopen⟩
      show (statuses time.instant (start.replay log) 0 registry.endpoints).1[index]? = _
      rw [statuses_fst]
      simp [List.getElem?_zipIdx, hget]
  · intro other hother hsame
    obtain ⟨halike, hheld, hiff⟩ := (Alike.refl start).replay_observations log
    obtain ⟨halike', hheld', hiff'⟩ := (Alike.refl start).replay_observations other
    rw [hsame] at halike' hheld' hiff'
    have hfaultless' : start.Faultless other := hiff'.mpr (hiff.mp hfaultless)
    refine ⟨halike'.records.trans halike.records.symm, ?_⟩
    intro question hquestion hnow hnow'
    have hboth : (start.replay other).Alike (start.replay log) :=
      ⟨halike'.records.trans halike.records.symm, halike'.threshold.trans halike.threshold.symm,
        halike'.timeout.trans halike.timeout.symm⟩
    apply hboth.answer hquestion
    intro key
    have hopen := any_until?_replay (new_until? count threshold timeout key) hchron hnow hfaultless
    have hopen' := any_until?_replay (new_until? count threshold timeout key) hother hnow'
      hfaultless'
    rw [Bool.eq_iff_iff, hopen, hopen']
    simp only [HeldOpen, ← heldFrom?_eq_some_iff]
    rw [hheld, hheld']
  · intro time index endpoint latency
    cases hr : (start.replay log).record? index with
    | none => rw [after, perform_of_record?_eq_none rfl hr]
    | some r =>
      rw [after, perform_success hr]
      rfl

/-- A failure trips a breaker of ten nanoseconds at time three. A question and a probe success later
it is still open at time twelve, and a question at time thirteen finds it closed. -/
theorem lazy_breakers_answer_like_eager_after_a_probe :
    let start := new 1 1 (.ofNanos 10)
    let log : Log :=
      [⟨⟨⟨3⟩, default⟩, .failure 0 default .call⟩, ⟨⟨⟨5⟩, default⟩, .inquire default⟩,
        ⟨⟨⟨8⟩, default⟩, .success 0 default .zero .probe⟩]
    Chronological log ∧ start.Faultless log ∧
      (start.replay log).answer ⟨⟨⟨12⟩, default⟩, .inquire default⟩ = .circuit true ∧
      (start.replay log).answer ⟨⟨⟨13⟩, default⟩, .inquire default⟩ ≠ .circuit true := by
  intro start log
  have hchron : Chronological log := by decide
  have hfaultless : start.Faultless log := by decide
  have heager := (lazy_breakers_answer_like_eager 1 1 (.ofNanos 10) log hchron hfaultless).1
  have htripped : start.TrippedAt log (default : Endpoint).url ⟨3⟩ :=
    heldFrom?_eq_some_iff.mp (by decide)
  refine ⟨hchron, hfaultless, ?_, ?_⟩
  · have hquestion := (heager ⟨⟨12⟩, default⟩ (by decide) default).1
    exact hquestion.mpr (htripped.heldOpen_iff.mpr (by decide))
  · intro hopen
    have hheld := ((heager ⟨⟨13⟩, default⟩ (by decide) default).1).mp hopen
    exact absurd (htripped.heldOpen_iff.mp hheld) (by decide)

end Tracker

end Failover
