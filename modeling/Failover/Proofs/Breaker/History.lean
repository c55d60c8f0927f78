import Failover.Breaker
import Mathlib.Data.Finset.Card
import Mathlib.Data.List.Induction
import Mathlib.Tactic.Common

/-!
# Breakers and their histories

A breaker is tripped, closed or checked, and what a table answers is a function of what was done to
it. Here the instants come in any order: a check may lie before an earlier one, and a trip may end
before the one that it replaces. `BreakerTable.Standing` says, without mentioning the table, when an
opening is still in it: it is the latest one of its key, nobody closed the breaker since, and no
check since then came at or after its end. A check at a late instant thus takes away what a check at
an earlier instant would have found.

The table holds exactly the openings that stand (`BreakerTable.until?_replay_eq_some_iff`), by one
step lemma for the table and one for the history. The answers follow, and what was done to other
keys does not enter into them.
-/

namespace Failover

namespace BreakerTable

/-! ## Acts and logs -/

/-- Something that is done to the breaker of a key. -/
inductive Act where
  | trip
  | close
  | check
deriving DecidableEq

/-- An act on the breaker of a key, and the instant at which it is done. -/
structure Entry where
  key : String
  time : Instant
  act : Act
deriving DecidableEq

/-- What is done to a table, in order. -/
abbrev Log := List Entry

/-- The table after an entry. A trip of which the clock cannot show the end changes nothing. -/
def after (t : BreakerTable) (e : Entry) : BreakerTable :=
  match e.act with
  | .trip => ((t.trip? e.key e.time).map Prod.snd).getD t
  | .close => (t.close e.key).2
  | .check => (t.check e.key e.time).2

/-- The table after a log. -/
def replay (t : BreakerTable) (log : Log) : BreakerTable := log.foldl after t

@[simp] theorem replay_nil (t : BreakerTable) : t.replay [] = t := rfl

/-- A log with one more entry is replayed up to it, then the entry comes after. -/
@[simp] theorem replay_concat (t : BreakerTable) (log : Log) (e : Entry) :
    t.replay (log ++ [e]) = (t.replay log).after e := by
  simp [replay]

@[simp] theorem after_timeout (t : BreakerTable) (e : Entry) : (t.after e).timeout = t.timeout := by
  obtain ⟨key, time, act⟩ := e
  cases act with
  | trip =>
    simp only [after, trip?]
    cases time.after? t.timeout <;> rfl
  | close => rfl
  | check => exact check_timeout t key time

/-- No log changes the timeout. -/
@[simp] theorem replay_timeout (t : BreakerTable) (log : Log) :
    (t.replay log).timeout = t.timeout := by
  induction log using List.reverseRecOn with
  | nil => rfl
  | append_singleton log e ih => rw [replay_concat, after_timeout, ih]

/-! ## The entry of a key -/

/-- A trip gives its key a new entry if the clock can show it, closing takes the entry away, and a
check does so if its time has come. Other keys keep their entries. -/
lemma until?_after (t : BreakerTable) (e : Entry) (key : String) :
    (t.after e).until? key =
      if e.key = key then
        match e.act with
        | .trip => (e.time.after? t.timeout).or (t.until? key)
        | .close => none
        | .check => (t.until? key).filter e.time.before
      else t.until? key := by
  obtain ⟨other, time, act⟩ := e
  cases act with
  | trip =>
    simp only [after, trip?]
    cases time.after? t.timeout with
    | none => simp
    | some endsAt => simp [until?_insert, eq_comm]
  | close => simp [after, close, until?_erase, eq_comm]
  | check => simp [after, until?_check, eq_comm]

/-- The keys that have an entry. -/
def keys (t : BreakerTable) : Finset String := (t.entries.map Prod.fst).toFinset

/-- The keys of a table are those it holds an end for. -/
lemma mem_keys_iff {t : BreakerTable} {key : String} : key ∈ t.keys ↔ (t.until? key).isSome := by
  simp [keys, until?, List.lookup_isSome_iff]

/-- There are as many entries as keys that have one. -/
lemma card_keys (t : BreakerTable) : t.keys.card = t.openCount := by
  rw [keys, List.toFinset_card_of_nodup t.keys_nodup, List.length_map]
  rfl

/-- A table closes a breaker as an open one if its key has an entry. -/
lemma close_fst (t : BreakerTable) (key : String) : (t.close key).1 = (t.until? key).isSome := rfl

/-- A table trips a breaker until one timeout later, whatever it holds. -/
lemma map_fst_trip? (t : BreakerTable) (key : String) (now : Instant) :
    (t.trip? key now).map Prod.fst = now.after? t.timeout := by
  unfold trip?
  rw [Option.map_map]
  exact congrFun Option.map_id _

/-! ## Openings that stand -/

variable {timeout : Duration} {log : Log} {key : String} {since : Instant} {later : Log} {e : Entry}

/-- An entry opens the breaker of a key: it is a trip of which the clock can show the end. -/
def Entry.Opens (timeout : Duration) (key : String) (e : Entry) : Prop :=
  e.key = key ∧ e.act = .trip ∧ e.time.nanos + timeout.nanos < Instant.limit

/-- An entry spares an opening of a key: it neither closes the breaker nor checks it at or after the
end of the opening. -/
def Entry.Spares (timeout : Duration) (key : String) (since : Instant) (e : Entry) : Prop :=
  e.key = key → e.act ≠ .close ∧ (e.act = .check → e.time.nanos < since.nanos + timeout.nanos)

/-- The latest opening of the breaker of a key in a log was at an instant, and this is what came
after it. -/
structure LatestOpening (timeout : Duration) (log : Log) (key : String) (since : Instant)
    (later : Log) : Prop where
  exists_before : ∃ before, log = before ++ ⟨key, since, .trip⟩ :: later
  shown : since.nanos + timeout.nanos < Instant.limit
  latest : ∀ e ∈ later, ¬ e.Opens timeout key

/-- The latest opening of the breaker of a key was at an instant, and everything after it spares
it. -/
def Standing (timeout : Duration) (log : Log) (key : String) (since : Instant) : Prop :=
  ∃ later, LatestOpening timeout log key since later ∧ ∀ e ∈ later, e.Spares timeout key since

/-- Nothing is opened in an empty log. -/
lemma not_latestOpening_nil : ¬ LatestOpening timeout [] key since later := by
  rintro ⟨⟨before, h⟩, -, -⟩
  simp at h

/-- The latest opening of a log is its last entry, or the latest one before that. -/
lemma latestOpening_concat :
    LatestOpening timeout (log ++ [e]) key since later ↔
      (e.Opens timeout key ∧ e.time = since ∧ later = []) ∨
        ∃ rest, later = rest ++ [e] ∧ LatestOpening timeout log key since rest ∧
          ¬ e.Opens timeout key := by
  constructor
  · rintro ⟨⟨before, hsplit⟩, hshown, hlatest⟩
    rcases List.eq_nil_or_concat later with rfl | ⟨rest, f, rfl⟩
    · obtain ⟨-, hlast⟩ := List.append_inj' hsplit rfl
      obtain rfl := List.singleton_inj.mp hlast
      exact Or.inl ⟨⟨rfl, rfl, hshown⟩, rfl, rfl⟩
    · rw [List.concat_eq_append] at hsplit hlatest ⊢
      rw [← List.cons_append, ← List.append_assoc] at hsplit
      obtain ⟨hlog, hlast⟩ := List.append_inj' hsplit rfl
      obtain rfl := List.singleton_inj.mp hlast
      refine Or.inr ⟨rest, rfl, ⟨⟨before, hlog⟩, hshown, ?_⟩, hlatest e (by simp)⟩
      exact fun f hf => hlatest f (List.mem_append_left _ hf)
  · rintro (⟨⟨hkey, hact, hshown⟩, hsince, rfl⟩ | ⟨rest, rfl, ⟨⟨before, rfl⟩, hshown, hlatest⟩, hnot⟩)
    · obtain ⟨k, time, act⟩ := e
      cases hkey
      cases hact
      cases hsince
      exact ⟨⟨log, rfl⟩, hshown, nofun⟩
    · refine ⟨⟨before, by simp⟩, hshown, ?_⟩
      intro f hf
      rcases List.mem_append.mp hf with hrest | hlast
      · exact hlatest f hrest
      · obtain rfl := List.mem_singleton.mp hlast
        exact hnot

/-- Nothing stands after an empty log. -/
lemma not_standing_nil : ¬ Standing timeout [] key since :=
  fun ⟨_, hopening, _⟩ => not_latestOpening_nil hopening

/-- An opening stands after one more entry if this is the opening, or if it stood before and the
entry neither replaces it nor takes it away. -/
lemma standing_concat :
    Standing timeout (log ++ [e]) key since ↔
      (e.Opens timeout key ∧ e.time = since) ∨
        (Standing timeout log key since ∧ ¬ e.Opens timeout key ∧ e.Spares timeout key since) := by
  constructor
  · rintro ⟨later, hopening, hspared⟩
    rcases latestOpening_concat.mp hopening with ⟨hopens, hsince, -⟩ | ⟨rest, rfl, hrest, hnot⟩
    · exact Or.inl ⟨hopens, hsince⟩
    · refine Or.inr ⟨⟨rest, hrest, ?_⟩, hnot, hspared e (by simp)⟩
      exact fun f hf => hspared f (List.mem_append_left _ hf)
  · rintro (⟨hopens, hsince⟩ | ⟨⟨rest, hrest, hspared⟩, hnot, hspares⟩)
    · exact ⟨[], latestOpening_concat.mpr (Or.inl ⟨hopens, hsince, rfl⟩), nofun⟩
    · refine ⟨rest ++ [e], latestOpening_concat.mpr (Or.inr ⟨rest, rfl, hrest, hnot⟩), ?_⟩
      intro f hf
      rcases List.mem_append.mp hf with hbefore | hlast
      · exact hspared f hbefore
      · obtain rfl := List.mem_singleton.mp hlast
        exact hspares

/-- The entry of a key is the end of the opening that stands. -/
lemma until?_replay_eq_some_iff {endsAt : Instant} :
    ((empty timeout).replay log).until? key = some endsAt ↔
      ∃ since, Standing timeout log key since ∧ endsAt.nanos = since.nanos + timeout.nanos := by
  induction log using List.reverseRecOn generalizing endsAt with
  | nil =>
    constructor
    · intro h
      cases h
    · rintro ⟨since, hstanding, -⟩
      exact absurd hstanding not_standing_nil
  | append_singleton log e ih =>
    have htimeout : ((empty timeout).replay log).timeout = timeout := replay_timeout _ log
    simp only [standing_concat, or_and_right, exists_or, replay_concat, until?_after, htimeout]
    obtain ⟨other, time, act⟩ := e
    by_cases hkey : other = key
    · subst hkey
      rw [if_pos rfl]
      cases act with
      | trip =>
        cases hend : time.after? timeout with
        | some u =>
          obtain ⟨hshown, hu⟩ := Instant.after?_eq_some_iff.mp hend
          have hopens : Entry.Opens timeout other ⟨other, time, .trip⟩ := ⟨rfl, rfl, hshown⟩
          simp [hopens, Instant.ext_iff, hu, eq_comm]
        | none =>
          have hlimit := Instant.after?_eq_none_iff.mp hend
          have hopens : ¬ Entry.Opens timeout other ⟨other, time, .trip⟩ :=
            fun h => absurd h.2.2 (Nat.not_lt.mpr hlimit)
          simp [hopens, Entry.Spares, ih]
      | close => simp [Entry.Opens, Entry.Spares]
      | check =>
        simp only [Option.filter_eq_some_iff, ih, Entry.Opens, Entry.Spares, Instant.before]
        constructor
        · rintro ⟨⟨since, hstanding, hend⟩, htime⟩
          exact Or.inr ⟨since, ⟨hstanding, by simp, by simpa [← hend] using htime⟩, hend⟩
        · rintro (⟨since, ⟨⟨-, hact, -⟩, -⟩, -⟩ | ⟨since, ⟨hstanding, -, hspares⟩, hend⟩)
          · cases hact
          · exact ⟨⟨since, hstanding, hend⟩, by simpa [hend] using hspares⟩
    · rw [if_neg hkey]
      simp [Entry.Opens, Entry.Spares, hkey, ih]

/-- A key has an entry exactly if an opening of it stands. -/
lemma isSome_until?_replay_iff :
    (((empty timeout).replay log).until? key).isSome ↔ ∃ since, Standing timeout log key since := by
  rw [Option.isSome_iff_exists]
  constructor
  · rintro ⟨endsAt, h⟩
    obtain ⟨since, hstanding, -⟩ := until?_replay_eq_some_iff.mp h
    exact ⟨since, hstanding⟩
  · rintro ⟨since, hstanding⟩
    exact ⟨⟨since.nanos + timeout.nanos⟩, until?_replay_eq_some_iff.mpr ⟨since, hstanding, rfl⟩⟩

/-- A check finds a breaker open exactly if an opening of it stands and ends later. -/
lemma isOpen_check_replay_iff {now : Instant} :
    (((empty timeout).replay log).check key now).1.isOpen = true ↔
      ∃ since, Standing timeout log key since ∧ now.nanos < since.nanos + timeout.nanos := by
  rw [isOpen_check, Option.any_eq_true]
  constructor
  · rintro ⟨endsAt, h, hbefore⟩
    obtain ⟨since, hstanding, hend⟩ := until?_replay_eq_some_iff.mp h
    refine ⟨since, hstanding, ?_⟩
    rw [← hend]
    exact of_decide_eq_true hbefore
  · rintro ⟨since, hstanding, hlt⟩
    exact ⟨⟨since.nanos + timeout.nanos⟩, until?_replay_eq_some_iff.mpr ⟨since, hstanding, rfl⟩,
      decide_eq_true hlt⟩

/-! ## One key at a time -/

/-- The entries of a log that are about a key. -/
def ofKey (key : String) (log : Log) : Log := log.filter fun e => e.key = key

/-- The entry of a key is what the entries about this key have left of it. -/
lemma until?_replay_ofKey (t : BreakerTable) (log : Log) (key : String) :
    (t.replay (ofKey key log)).until? key = (t.replay log).until? key := by
  induction log using List.reverseRecOn with
  | nil => rfl
  | append_singleton log e ih =>
    by_cases hkey : e.key = key
    · have hlog : ofKey key (log ++ [e]) = ofKey key log ++ [e] := by simp [ofKey, hkey]
      simp only [hlog, replay_concat, until?_after, replay_timeout, ih]
    · have hlog : ofKey key (log ++ [e]) = ofKey key log := by simp [ofKey, hkey]
      rw [hlog, ih, replay_concat, until?_after, if_neg hkey]

/-- Tables that hold the same for a key and have one timeout give the same answers about it. -/
lemma answers_congr {t u : BreakerTable} (htimeout : t.timeout = u.timeout)
    (huntil : t.until? key = u.until? key) (now : Instant) :
    (t.check key now).1 = (u.check key now).1 ∧ (t.close key).1 = (u.close key).1 ∧
      (t.trip? key now).map Prod.fst = (u.trip? key now).map Prod.fst := by
  refine ⟨?_, ?_, ?_⟩
  · unfold check
    rw [huntil]
    cases u.until? key with
    | none => rfl
    | some endsAt => cases h : now.before endsAt <;> simp [h]
  · rw [close_fst, close_fst, huntil]
  · rw [map_fst_trip?, map_fst_trip?, htimeout]

/-- **Breakers answer as their histories say.** After any log, with instants in any order: a check
finds a breaker open exactly if the latest opening of its key still stands and ends after the
instant of the check, closing finds it open exactly if that opening stands, and as many breakers
count as open as there are keys with an opening that stands. A trip beyond what the clock can show
has no result and changes nothing, any other one lasts for one timeout. The answers about a key are
those that a table gives to which only the entries about this key were done. -/
theorem answers_follow_history (timeout : Duration) (log : Log) :
    let t := (empty timeout).replay log
    (∀ key now, (t.check key now).1.isOpen = true ↔
      ∃ since, Standing timeout log key since ∧ now.nanos < since.nanos + timeout.nanos) ∧
    (∀ key, (t.close key).1 = true ↔ ∃ since, Standing timeout log key since) ∧
    (∃ keys : Finset String, (∀ key, key ∈ keys ↔ ∃ since, Standing timeout log key since) ∧
      t.openCount = keys.card) ∧
    (∀ key now,
      (t.trip? key now = none ↔ Instant.limit ≤ now.nanos + timeout.nanos) ∧
      (t.trip? key now = none → t.after ⟨key, now, .trip⟩ = t) ∧
      ∀ endsAt next, t.trip? key now = some (endsAt, next) →
        endsAt.nanos = now.nanos + timeout.nanos ∧ t.after ⟨key, now, .trip⟩ = next) ∧
    ∀ key now,
      let own := (empty timeout).replay (ofKey key log)
      (t.check key now).1 = (own.check key now).1 ∧ (t.close key).1 = (own.close key).1 ∧
        (t.trip? key now).map Prod.fst = (own.trip? key now).map Prod.fst := by
  intro t
  have htimeout : t.timeout = timeout := replay_timeout _ log
  refine ⟨?_, ?_, ?_, ?_, ?_⟩
  · exact fun key now => isOpen_check_replay_iff
  · exact fun key => isSome_until?_replay_iff
  · exact ⟨t.keys, fun key => mem_keys_iff.trans isSome_until?_replay_iff, t.card_keys.symm⟩
  · intro key now
    refine ⟨?_, ?_, ?_⟩
    · rw [trip?, Option.map_eq_none_iff, htimeout, Instant.after?_eq_none_iff]
    · intro hnone
      simp only [after, hnone]
      rfl
    · intro endsAt next hsome
      refine ⟨?_, by simp [after, hsome]⟩
      have hend := congrArg (Option.map Prod.fst) hsome
      rw [map_fst_trip?, htimeout] at hend
      exact (Instant.after?_eq_some_iff.mp hend).2
  · intro key now
    exact answers_congr ((replay_timeout _ log).trans (replay_timeout _ _).symm)
      (until?_replay_ofKey (empty timeout) log key).symm now

/-- A check at time fifteen takes away the opening at time zero, so that a check at time five comes
too late, while a reopening that the clock cannot show leaves the other key as it was. -/
example :
    let never : Instant := ⟨Instant.limit⟩
    let t := (empty (.ofNanos 10)).replay
      [⟨"a", ⟨0⟩, .trip⟩, ⟨"b", ⟨0⟩, .trip⟩, ⟨"a", ⟨15⟩, .check⟩, ⟨"b", never, .trip⟩]
    (t.check "a" ⟨5⟩).1.isOpen = false ∧ (t.check "b" ⟨5⟩).1.isOpen = true ∧ t.openCount = 1 := by
  decide

end BreakerTable

end Failover
