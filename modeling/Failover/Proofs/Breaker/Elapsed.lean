import Failover.Proofs.Breaker.History

/-!
# Breakers whose time is over

An opening whose time is over stays in the table until somebody checks its key. On a clock that does
not go back a check never shows this: it finds a breaker open exactly if the latest opening was not
closed and its time is not over, whatever was checked in between
(`BreakerTable.isOpen_check_replay_iff_of_le`). Closing a breaker and counting the open ones do not
look at the clock, and there the openings whose time is over still show
(`BreakerTable.close_and_count_include_elapsed`).
-/

namespace Failover

namespace BreakerTable

variable {timeout : Duration} {log : Log} {key : String} {since now : Instant}

/-- The latest opening of the breaker of a key was at an instant, and nobody closed it since. -/
def Unclosed (timeout : Duration) (log : Log) (key : String) (since : Instant) : Prop :=
  ∃ later, LatestOpening timeout log key since later ∧ ∀ e ∈ later, e.key = key → e.act ≠ .close

/-- The latest opening of the breaker of a key stands although its time is over: nobody closed it,
and nobody has checked it since its end. -/
def Elapsed (timeout : Duration) (log : Log) (key : String) (now : Instant) : Prop :=
  ∃ since, Standing timeout log key since ∧ since.nanos + timeout.nanos ≤ now.nanos

lemma Standing.unclosed (h : Standing timeout log key since) : Unclosed timeout log key since := by
  obtain ⟨later, hopening, hspared⟩ := h
  exact ⟨later, hopening, fun e he hkey => (hspared e he hkey).1⟩

/-- An opening that was not closed stands as long as nothing has come after its end. -/
lemma Unclosed.standing (h : Unclosed timeout log key since)
    (hnow : ∀ e ∈ log, e.time.nanos ≤ now.nanos) (hlt : now.nanos < since.nanos + timeout.nanos) :
    Standing timeout log key since := by
  obtain ⟨later, hopening, hunclosed⟩ := h
  refine ⟨later, hopening, fun e he hkey => ⟨hunclosed e he hkey, fun _ => ?_⟩⟩
  obtain ⟨before, rfl⟩ := hopening.exists_before
  exact Nat.lt_of_le_of_lt (hnow e (by simp [he])) hlt

/-- At most one opening of a key stands. -/
lemma Standing.unique {other : Instant} (h : Standing timeout log key since)
    (h' : Standing timeout log key other) : since = other := by
  have hend := until?_replay_eq_some_iff.mpr ⟨since, h, rfl⟩
  have hend' := until?_replay_eq_some_iff.mpr ⟨other, h', rfl⟩
  have hnanos := congrArg Instant.nanos (Option.some.inj (hend.symm.trans hend'))
  exact Instant.ext (Nat.add_right_cancel hnanos)

/-- On a clock that does not go back, earlier checks do not matter to a check. -/
lemma isOpen_check_replay_iff_of_le (hnow : ∀ e ∈ log, e.time.nanos ≤ now.nanos) :
    (((empty timeout).replay log).check key now).1.isOpen = true ↔
      ∃ since, Unclosed timeout log key since ∧ now.nanos < since.nanos + timeout.nanos := by
  rw [isOpen_check_replay_iff]
  constructor
  · rintro ⟨since, hstanding, hlt⟩
    exact ⟨since, hstanding.unclosed, hlt⟩
  · rintro ⟨since, hunclosed, hlt⟩
    exact ⟨since, hunclosed.standing hnow hlt, hlt⟩

/-- The entry of a key belongs to an open breaker or to one whose time is over. -/
lemma isSome_until?_replay_iff_isOpen_or :
    (((empty timeout).replay log).until? key).isSome ↔
      (((empty timeout).replay log).check key now).1.isOpen = true ∨
        Elapsed timeout log key now := by
  rw [isSome_until?_replay_iff, isOpen_check_replay_iff]
  constructor
  · rintro ⟨since, hstanding⟩
    rcases Nat.lt_or_ge now.nanos (since.nanos + timeout.nanos) with hlt | hge
    · exact Or.inl ⟨since, hstanding, hlt⟩
    · exact Or.inr ⟨since, hstanding, hge⟩
  · rintro (⟨since, hstanding, -⟩ | ⟨since, hstanding, -⟩)
    · exact ⟨since, hstanding⟩
    · exact ⟨since, hstanding⟩

/-- A breaker whose time is over is not found open. -/
lemma Elapsed.isOpen_eq_false (h : Elapsed timeout log key now) :
    (((empty timeout).replay log).check key now).1.isOpen = false := by
  obtain ⟨since, hstanding, hge⟩ := h
  rw [← Bool.not_eq_true, isOpen_check_replay_iff]
  rintro ⟨other, hother, hlt⟩
  obtain rfl := hstanding.unique hother
  omega

/-- **Closing and counting take elapsed breakers in.** On a clock that does not go back, a check
finds a breaker open exactly if its latest opening was not closed and the time of this is not over.
Closing says that a breaker was open if a check would find it open, but also if its time is over and
nobody has checked it since; and the breakers that count as open are those that a check would find
open together with those whose time is over. -/
theorem close_and_count_include_elapsed (timeout : Duration) (log : Log) (now : Instant)
    (hnow : ∀ e ∈ log, e.time.nanos ≤ now.nanos) :
    let t := (empty timeout).replay log
    (∀ key, (t.check key now).1.isOpen = true ↔
      ∃ since, Unclosed timeout log key since ∧ now.nanos < since.nanos + timeout.nanos) ∧
    (∀ key, (t.close key).1 = true ↔
      (t.check key now).1.isOpen = true ∨ Elapsed timeout log key now) ∧
    (∀ key, Elapsed timeout log key now → (t.check key now).1.isOpen = false) ∧
    ∃ opened elapsed : Finset String,
      (∀ key, key ∈ opened ↔ (t.check key now).1.isOpen = true) ∧
      (∀ key, key ∈ elapsed ↔ Elapsed timeout log key now) ∧
      t.openCount = opened.card + elapsed.card := by
  intro t
  have hentry : ∀ key, key ∈ t.keys ↔
      (t.check key now).1.isOpen = true ∨ Elapsed timeout log key now :=
    fun key => mem_keys_iff.trans isSome_until?_replay_iff_isOpen_or
  refine ⟨fun key => isOpen_check_replay_iff_of_le hnow,
    fun key => isSome_until?_replay_iff_isOpen_or, fun key => Elapsed.isOpen_eq_false, ?_⟩
  refine ⟨t.keys.filter fun key => (t.check key now).1.isOpen = true,
    t.keys.filter fun key => ¬ (t.check key now).1.isOpen = true, ?_, ?_, ?_⟩
  · intro key
    rw [Finset.mem_filter, hentry]
    exact ⟨And.right, fun hopen => ⟨Or.inl hopen, hopen⟩⟩
  · intro key
    rw [Finset.mem_filter, hentry]
    constructor
    · rintro ⟨hopen | helapsed, hnot⟩
      · exact absurd hopen hnot
      · exact helapsed
    · intro helapsed
      exact ⟨Or.inr helapsed, Bool.not_eq_true _ ▸ helapsed.isOpen_eq_false⟩
  · rw [Finset.card_filter_add_card_filter_not, card_keys]

/-- Two breakers of ten nanoseconds, tripped at the times zero and five: at time twelve the first
one is closed and the second one open, and two of them count as open. -/
theorem close_and_count_include_elapsed_of_two :
    let log : Log := [⟨"a", ⟨0⟩, .trip⟩, ⟨"b", ⟨5⟩, .trip⟩, ⟨"b", ⟨7⟩, .check⟩]
    let t := (empty (.ofNanos 10)).replay log
    (∀ e ∈ log, e.time.nanos ≤ 12) ∧ (t.check "a" ⟨12⟩).1.isOpen = false ∧
      (t.close "a").1 = true ∧ (t.check "b" ⟨12⟩).1.isOpen = true ∧
      ∃ opened elapsed : Finset String, "b" ∈ opened ∧ "a" ∈ elapsed ∧
        t.openCount = opened.card + elapsed.card := by
  intro log t
  have hnow : ∀ e ∈ log, e.time.nanos ≤ 12 := by decide
  obtain ⟨hcheck, hclose, hclosed, opened, elapsed, hopened, helapsed, hcount⟩ :=
    close_and_count_include_elapsed (.ofNanos 10) log ⟨12⟩ hnow
  have hfirst : Elapsed (.ofNanos 10) log "a" ⟨12⟩ := by
    refine ⟨⟨0⟩, ⟨[⟨"b", ⟨5⟩, .trip⟩, ⟨"b", ⟨7⟩, .check⟩], ⟨⟨[], rfl⟩, by decide, ?_⟩, ?_⟩,
      by decide⟩
    · simp [Entry.Opens]
    · simp [Entry.Spares]
  have hsecond : (t.check "b" ⟨12⟩).1.isOpen = true := by
    refine (hcheck "b").mpr ⟨⟨5⟩, ⟨[⟨"b", ⟨7⟩, .check⟩], ⟨⟨[⟨"a", ⟨0⟩, .trip⟩], rfl⟩, by decide, ?_⟩,
      ?_⟩, by decide⟩
    · simp [Entry.Opens]
    · simp
  exact ⟨hnow, hclosed "a" hfirst, (hclose "a").mpr (Or.inr hfirst), hsecond, opened, elapsed,
    (hopened "b").mpr hsecond, (helapsed "a").mpr hfirst, hcount⟩

/-- A breaker is tripped for a second. One second later no check finds a breaker open, but closing
this one says that it was open, and one breaker counts as open. -/
theorem elapsed_breaker_counts_as_open :
    let log : Log := [⟨"a", ⟨0⟩, .trip⟩]
    let t := (empty (.ofMillis 1000)).replay log
    let now : Instant := ⟨1000 * Time.nanosPerMilli⟩
    (∀ e ∈ log, e.time.nanos ≤ now.nanos) ∧ (∀ key, (t.check key now).1.isOpen = false) ∧
      (t.close "a").1 = true ∧ t.openCount = 1 := by
  intro log t now
  refine ⟨by decide, ?_, by decide, by decide⟩
  intro key
  rw [isOpen_check]
  by_cases hkey : key = "a"
  · subst hkey
    decide
  · have hown : ofKey key log = [] := by simp [ofKey, log, Ne.symm hkey]
    have hnone : t.until? key = none := by
      rw [← until?_replay_ofKey, hown]
      rfl
    rw [hnone]
    rfl

end BreakerTable

end Failover
