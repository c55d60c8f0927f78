import Failover.Proofs.Config.Acceptance
import Failover.Proofs.Retry.Deadline
import Failover.Rpc.OverHttp

/-!
# Deadlines that are set to a span of time

A deadline may be set to a span of any length (`EndpointConfig.withTimeout`), but a configuration
holds whole milliseconds in a machine word. So the span loses its fraction of a millisecond, and
then whatever does not fit into the word. The endpoint still grants the time that was asked for
(`Endpoint.Grants`) exactly if this was at least one millisecond and less than `2 ^ 64` of them.

Below, nothing is left of the span. An endpoint without any time takes in no answer that is not
there at once, and over HTTP it is not even asked. Above, the deadline starts again at zero, so that
at least `2 ^ 64` milliseconds are missing, and the check of a configuration notices this only where
the deadline comes out as zero itself.
-/

namespace Failover

open Time

/-! ## Whole milliseconds -/

namespace Duration

/-- The whole milliseconds of a span are the most that fit into it. -/
lemma isGreatest_millis (d : Duration) :
    IsGreatest {millis | millis * nanosPerMilli ≤ d.nanos} d.millis := by
  unfold millis nanosPerMilli
  constructor
  · rw [Set.mem_ofPred_eq]
    omega
  · intro millis hmillis
    rw [Set.mem_ofPred_eq] at hmillis
    omega

/-- Whole milliseconds compare as the nanoseconds do. -/
lemma millis_lt_iff {d : Duration} {n : Nat} : d.millis < n ↔ d.nanos < n * nanosPerMilli :=
  Nat.div_lt_iff_lt_mul (by decide)

/-- The timer of a number of milliseconds in a machine word takes just as many. -/
lemma timerMillis_ofMillis_toNat (n : UInt64) : (ofMillis n.toNat).timerMillis = n.toNat := by
  have hnanos := nanos_ofMillis_toNat n
  unfold timerMillis
  rw [hnanos]
  unfold nanosPerMilli
  omega

end Duration

/-! ## Answers within a span of time -/

namespace Rpc

/-- There is an answer, and it takes no longer than a span of time. -/
def Answer.ComesWithin (a : Answer) (span : Duration) : Prop :=
  a.reply ≠ .silence ∧ a.latency * nanosPerMilli ≤ span.nanos

/-- An answer is there within the whole milliseconds of a span exactly when it comes within it. -/
lemma Answer.arrival_le_millis_iff {a : Answer} {span : Duration} :
    a.arrival ≤ span.millis ↔ a.ComesWithin span := by
  have hlatency : a.latency ≤ span.millis ↔ a.latency * nanosPerMilli ≤ span.nanos :=
    Nat.le_div_iff_mul_le (by decide)
  rw [arrival_le_iff, hlatency]
  rfl

/-- Over HTTP every request to an endpoint without any time fails at once, and the network is left
as it is. -/
lemma OverHttp.post_of_timeout_eq_zero {σ : Type} (net : Http.Network σ) (id : String) (s : σ)
    {e : Endpoint} (hzero : e.timeout = .zero) (r : Request) :
    ∃ failure, post net id s e r = (⟨0, .result (.error failure)⟩, s) := by
  unfold post
  cases Http.Client.prepare (draft id e r) with
  | error problem => exact ⟨_, rfl⟩
  | ok prepared =>
    dsimp only
    rw [if_pos hzero]
    exact ⟨_, rfl⟩

end Rpc

/-! ## The deadline of an endpoint -/

/-- The deadline of an endpoint has the meaning of a span that was asked for: the endpoint has time
at all, no more than was asked for, and less by a fraction of a millisecond only. -/
structure Endpoint.Grants (e : Endpoint) (asked : Duration) : Prop where
  pos : 0 < e.timeout.nanos
  le : e.timeout.nanos ≤ asked.nanos
  lt : asked.nanos < e.timeout.nanos + nanosPerMilli

namespace EndpointConfig

variable {c : EndpointConfig} {asked : Duration} {e : Endpoint}

/-- A timeout is kept as its milliseconds in 64 bits. -/
lemma timeoutMs_withTimeout (c : EndpointConfig) (asked : Duration) :
    (c.withTimeout asked).timeoutMs.toNat = asked.millis % 2 ^ 64 := UInt64.toNat_ofNat'

/-- A deadline is empty exactly if its number of milliseconds is zero. -/
lemma timeout_ofConfig_eq_zero_iff : (Endpoint.ofConfig c).timeout = .zero ↔ c.timeoutMs = 0 := by
  have hnanos : (Endpoint.ofConfig c).timeout.nanos = c.timeoutMs.toNat * nanosPerMilli :=
    Duration.nanos_ofMillis_toNat c.timeoutMs
  have hmillis : c.timeoutMs.toNat * nanosPerMilli = 0 ↔ c.timeoutMs.toNat = 0 := by
    unfold nanosPerMilli
    omega
  rw [Duration.ext_iff, hnanos, Duration.nanos_zero, hmillis, ← UInt64.toNat_inj]
  rfl

section Asked

variable (he : e = Endpoint.ofConfig (c.withTimeout asked))

include he

/-- The timeout of an endpoint is what was left of the one that was asked for. -/
lemma nanos_timeout_of_asked : e.timeout.nanos = asked.millis % 2 ^ 64 * nanosPerMilli := by
  rw [he, ← timeoutMs_withTimeout c asked]
  exact Duration.nanos_ofMillis_toNat _

/-- So is the time that its timer runs. -/
lemma timerMillis_timeout_of_asked : e.timeout.timerMillis = asked.millis % 2 ^ 64 := by
  rw [he, ← timeoutMs_withTimeout c asked]
  exact Duration.timerMillis_ofMillis_toNat _

/-- Below a millisecond nothing is left. -/
lemma timeout_eq_zero_of_short (hshort : asked.nanos < nanosPerMilli) : e.timeout = .zero := by
  have hmillis : asked.millis = 0 := Nat.div_eq_of_lt hshort
  rw [Duration.ext_iff, nanos_timeout_of_asked he, hmillis, Duration.nanos_zero]
  rfl

/-- From `2 ^ 64` milliseconds on at least as many are missing. -/
lemma nanos_timeout_add_le_of_long (hlong : 2 ^ 64 * nanosPerMilli ≤ asked.nanos) :
    e.timeout.nanos + 2 ^ 64 * nanosPerMilli ≤ asked.nanos := by
  have hmillis : 2 ^ 64 ≤ asked.millis := asked.isGreatest_millis.2 hlong
  have hwrap : asked.millis % 2 ^ 64 + 2 ^ 64 ≤ asked.millis := by omega
  calc e.timeout.nanos + 2 ^ 64 * nanosPerMilli
      = (asked.millis % 2 ^ 64 + 2 ^ 64) * nanosPerMilli := by
        rw [nanos_timeout_of_asked he, Nat.add_mul]
    _ ≤ asked.millis * nanosPerMilli := Nat.mul_le_mul_right _ hwrap
    _ ≤ asked.nanos := asked.isGreatest_millis.1

/-- In between only a fraction of a millisecond is missing. -/
lemma grants_of_range (hshort : nanosPerMilli ≤ asked.nanos)
    (hlong : asked.nanos < 2 ^ 64 * nanosPerMilli) : e.Grants asked := by
  have hnanos : e.timeout.nanos = asked.millis * nanosPerMilli := by
    rw [nanos_timeout_of_asked he, Nat.mod_eq_of_lt (Duration.millis_lt_iff.mpr hlong)]
  have hone : 1 * nanosPerMilli ≤ asked.nanos := by rwa [Nat.one_mul]
  have hmillis : 1 ≤ asked.millis := asked.isGreatest_millis.2 hone
  have hnext : asked.nanos < (asked.millis + 1) * nanosPerMilli :=
    Duration.millis_lt_iff.mp (Nat.lt_succ_self _)
  refine ⟨?_, ?_, ?_⟩
  · rw [hnanos]
    exact Nat.mul_pos hmillis (by decide)
  · rw [hnanos]
    exact asked.isGreatest_millis.1
  · rw [hnanos, ← Nat.succ_mul]
    exact hnext

/-- The time that was asked for is granted exactly between the two ends. -/
lemma grants_iff_of_asked :
    e.Grants asked ↔ nanosPerMilli ≤ asked.nanos ∧ asked.nanos < 2 ^ 64 * nanosPerMilli := by
  constructor
  · intro hgrants
    constructor
    · by_contra hshort
      have hzero := timeout_eq_zero_of_short he (Nat.lt_of_not_le hshort)
      have hpos := hgrants.pos
      rw [hzero, Duration.nanos_zero] at hpos
      exact Nat.lt_irrefl 0 hpos
    · by_contra hlong
      have hmissing := nanos_timeout_add_le_of_long he (Nat.le_of_not_lt hlong)
      have hfraction := hgrants.lt
      unfold nanosPerMilli at hmissing hfraction
      omega
  · rintro ⟨hshort, hlong⟩
    exact grants_of_range he hshort hlong

/-- Where the time that was asked for is granted, the timer of a request runs for its whole
milliseconds. So an answer that comes within it ends the request, and without one there is a
timeout. -/
lemma settle_of_grants (hgrants : e.Grants asked) (a : Rpc.Answer) :
    (a.ComesWithin asked → a.reply.ending? = some (a.settle e.timeout).ending) ∧
      (¬ a.ComesWithin asked → a.settle e.timeout = .timedOut e.timeout) := by
  obtain ⟨-, hlong⟩ := (grants_iff_of_asked he).mp hgrants
  have htimer : e.timeout.timerMillis = asked.millis := by
    rw [timerMillis_timeout_of_asked he, Nat.mod_eq_of_lt (Duration.millis_lt_iff.mpr hlong)]
  rw [← Rpc.Answer.arrival_le_millis_iff, ← htimer]
  constructor
  · intro hin
    exact (Rpc.Answer.settle_of_le hin).2
  · intro hlate
    exact Rpc.Answer.settle_of_lt (lt_of_not_ge hlate)

/-- Of an endpoint that is acceptable otherwise, a new deadline is acceptable unless it is empty. -/
lemma acceptable_iff_of_asked {readUrl : UrlReader} (h : c.Acceptable readUrl) :
    (c.withTimeout asked).Acceptable readUrl ↔ e.timeout ≠ .zero := by
  rw [he, Ne, timeout_ofConfig_eq_zero_iff]
  constructor
  · intro haccept
    exact haccept.timeout_ne
  · intro htimeout
    exact ⟨h.url_given, h.scheme, htimeout, h.maxRetries_ne⟩

end Asked

/-! ## The law -/

/-- What an endpoint makes of a deadline that is set to a span of time. -/
structure TimeoutLaw (c : EndpointConfig) (asked : Duration) (e : Endpoint) : Prop where
  /-- Nothing but the deadline is set. -/
  rest : e = { Endpoint.ofConfig c with timeout := e.timeout }
  /-- The deadline is the whole milliseconds of the span, counted by a machine word. -/
  nanos_eq : e.timeout.nanos = asked.nanos / nanosPerMilli % 2 ^ 64 * nanosPerMilli
  /-- The deadline has the meaning of the span from one millisecond on and below `2 ^ 64`. -/
  grants_iff : e.Grants asked ↔
    nanosPerMilli ≤ asked.nanos ∧ asked.nanos < 2 ^ 64 * nanosPerMilli
  /-- Then a request ends with its answer if this comes within the span, and else in a timeout. -/
  settles : e.Grants asked → ∀ a : Rpc.Answer,
    (a.ComesWithin asked → a.reply.ending? = some (a.settle e.timeout).ending) ∧
      (¬ a.ComesWithin asked → a.settle e.timeout = .timedOut e.timeout)
  /-- A shorter span leaves no time at all. -/
  eq_zero : asked.nanos < nanosPerMilli → e.timeout = .zero
  /-- Of a longer one at least `2 ^ 64` milliseconds are missing. -/
  add_le : 2 ^ 64 * nanosPerMilli ≤ asked.nanos →
    e.timeout.nanos + 2 ^ 64 * nanosPerMilli ≤ asked.nanos
  /-- Without any time a request is over before an answer that takes some, and over HTTP it fails
  and is not even sent. -/
  fails : e.timeout = .zero →
    (∀ a : Rpc.Answer, 0 < a.arrival → a.settle e.timeout = .timedOut .zero) ∧
      ∀ {σ : Type} (net : Http.Network σ) (id : String) (s : σ) (r : Rpc.Request),
        ∃ failure, Rpc.OverHttp.post net id s e r = (⟨0, .result (.error failure)⟩, s)
  /-- The check of a configuration notices exactly that there is no time. -/
  acceptable_iff : ∀ readUrl, c.Acceptable readUrl →
    ((c.withTimeout asked).Acceptable readUrl ↔ e.timeout ≠ .zero)

/-- **Timeouts are granted from one millisecond on and below `2 ^ 64` of them.** Whatever endpoint
is configured and whatever span its deadline is set to: the deadline is not zero, not longer than
the span and shorter by less than a millisecond exactly in this range, and there requests are
granted the time that was asked for. Below it the endpoint has no time and no request to it succeeds
over HTTP, and above it the deadline is far too short without being refused, unless it is zero. -/
theorem timeouts_granted_in_range (c : EndpointConfig) (asked : Duration) :
    TimeoutLaw c asked (Endpoint.ofConfig (c.withTimeout asked)) where
  rest := rfl
  nanos_eq := nanos_timeout_of_asked rfl
  grants_iff := grants_iff_of_asked rfl
  settles := settle_of_grants rfl
  eq_zero := timeout_eq_zero_of_short rfl
  add_le := nanos_timeout_add_le_of_long rfl
  fails := by
    intro hzero
    constructor
    · intro a harrival
      rw [hzero]
      exact Rpc.Answer.settle_of_lt harrival
    · intro σ net id s r
      exact Rpc.OverHttp.post_of_timeout_eq_zero net id s hzero r
  acceptable_iff := fun _ => acceptable_iff_of_asked rfl

/-- Half a millisecond leaves an endpoint without any time, and five milliseconds more than `2 ^ 64`
leave it the five, which the check of a configuration accepts. -/
theorem timeouts_lost_at_both_ends :
    let c : EndpointConfig := .ofUrl "http://a"
    let short : Duration := .ofNanos 500000
    let long : Duration := .ofMillis (2 ^ 64 + 5)
    (0 < short.nanos ∧ (Endpoint.ofConfig (c.withTimeout short)).timeout = .zero ∧
        ¬ (Endpoint.ofConfig (c.withTimeout short)).Grants short) ∧
      0 < long.nanos ∧ (Endpoint.ofConfig (c.withTimeout long)).timeout = .ofMillis 5 ∧
        (c.withTimeout long).Acceptable (fun _ => .ok "http") ∧
        ¬ (Endpoint.ofConfig (c.withTimeout long)).Grants long := by
  intro c short long
  refine ⟨⟨by decide, by decide, ?_⟩, by decide, by decide, ?_, ?_⟩
  · intro hgrants
    exact absurd hgrants.pos (by decide)
  · exact ⟨by decide, .inl rfl, by decide, by decide⟩
  · intro hgrants
    exact absurd hgrants.lt (by decide)

end EndpointConfig

end Failover
