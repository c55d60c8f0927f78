import Failover.Time.Instant

/-!
# Circuit breakers

A `BreakerTable` keeps for each key the instant until which its breaker is open. There is no timer:
a check that comes too late for an entry removes it. Opening overwrites an older entry, so the
latest opening counts.
-/

namespace Failover

/-- What a check finds: no entry, an entry that still holds, or one that was just removed. -/
inductive BreakerCheck where
  | closed
  | opened
  | elapsed
deriving DecidableEq, Inhabited

/-- Whether the breaker is open. -/
def BreakerCheck.isOpen (c : BreakerCheck) : Bool := c = .opened

/-- The open breakers by key and the time for which a breaker stays open. -/
structure BreakerTable where
  timeout : Duration
  entries : List (String × Instant)
  keys_nodup : (entries.map Prod.fst).Nodup
deriving DecidableEq

namespace BreakerTable

/-- The table without any open breaker. -/
def empty (timeout : Duration) : BreakerTable := ⟨timeout, [], by simp⟩

instance : Inhabited BreakerTable := ⟨empty Duration.zero⟩

/-- The instant until which the breaker of a key is open, if it has an entry. -/
def until? (t : BreakerTable) (key : String) : Option Instant := t.entries.lookup key

/-- The table without the entry of a key. -/
def erase (t : BreakerTable) (key : String) : BreakerTable where
  timeout := t.timeout
  entries := t.entries.filter fun e => e.1 ≠ key
  keys_nodup := t.keys_nodup.sublist ((List.filter_sublist).map _)

/-- The table with this entry for a key. -/
def insert (t : BreakerTable) (key : String) (endsAt : Instant) : BreakerTable where
  timeout := t.timeout
  entries := (key, endsAt) :: (t.erase key).entries
  keys_nodup := by
    rw [List.map_cons, List.nodup_cons]
    refine ⟨?_, (t.erase key).keys_nodup⟩
    simp [erase]

/-- The number of entries. -/
def openCount (t : BreakerTable) : Nat := t.entries.length

/-- Opens the breaker of a key. There is no result if the clock cannot show its end. -/
def trip? (t : BreakerTable) (key : String) (now : Instant) : Option (Instant × BreakerTable) :=
  (now.after? t.timeout).map fun endsAt => (endsAt, t.insert key endsAt)

/-- Closes the breaker of a key, and says whether it had an entry. -/
def close (t : BreakerTable) (key : String) : Bool × BreakerTable :=
  ((t.until? key).isSome, t.erase key)

/-- Looks at the breaker of a key. An entry whose time has come is removed. -/
def check (t : BreakerTable) (key : String) (now : Instant) : BreakerCheck × BreakerTable :=
  match t.until? key with
  | none => (.closed, t)
  | some endsAt => if now.before endsAt then (.opened, t) else (.elapsed, t.erase key)

/-! ## Entries after each operation -/

/-- A check keeps the timeout of the table. -/
@[simp] theorem check_timeout (t : BreakerTable) (key : String) (now : Instant) :
    (t.check key now).2.timeout = t.timeout := by
  unfold check
  split
  · rfl
  · split <;> rfl

/-- Erasing takes away the entry of its key and no other. -/
theorem until?_erase (t : BreakerTable) (key other : String) :
    (t.erase key).until? other = if other = key then none else t.until? other := by
  show (t.entries.filter fun e => e.1 ≠ key).lookup other =
    if other = key then none else t.entries.lookup other
  induction t.entries with
  | nil => simp
  | cons e rest ih => by_cases hkey : e.1 = key <;> grind

/-- Inserting sets the entry of its key and no other. -/
theorem until?_insert (t : BreakerTable) (key other : String) (endsAt : Instant) :
    (t.insert key endsAt).until? other = if other = key then some endsAt else t.until? other := by
  have herase := until?_erase t key other
  unfold until? at herase ⊢
  by_cases h : other = key
  · simp [insert, h]
  · rw [if_neg h] at herase ⊢
    have hbeq : (other == key) = false := by simpa using h
    simp only [insert, List.lookup_cons, hbeq]
    exact herase

/-- A check finds the breaker open as long as its entry lies ahead. -/
theorem isOpen_check (t : BreakerTable) (key : String) (now : Instant) :
    (t.check key now).1.isOpen = (t.until? key).any now.before := by
  unfold check
  cases t.until? key with
  | none => rfl
  | some endsAt => cases h : now.before endsAt <;> simp [BreakerCheck.isOpen, h]

/-- A check takes away an entry of its key whose time has come, and no other. -/
theorem until?_check (t : BreakerTable) (key other : String) (now : Instant) :
    (t.check key now).2.until? other =
      if other = key then (t.until? other).filter now.before else t.until? other := by
  unfold check
  split
  case h_1 h => by_cases ho : other = key <;> simp [ho, h]
  case h_2 endsAt h =>
    cases hb : now.before endsAt
    · by_cases ho : other = key <;> simp [until?_erase, ho, h, Option.filter, hb]
    · by_cases ho : other = key <;> simp [ho, h, Option.filter, hb]

end BreakerTable

end Failover
