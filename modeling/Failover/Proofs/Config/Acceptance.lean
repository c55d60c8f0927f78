import Failover.Config.Validation
import Failover.Proofs.Traffic.Run
import Mathlib.Tactic.Common

/-!
# Accepted configurations

A configuration is checked where it is read, its settings are checked once more where a manager is
built from them, and below that several numbers are silently raised to the least value that can run.
Here the three are compared. `Config.Acceptable` says what the first check asks for without listing
problems, and a manager built from a configuration that passes it is one that
`Manager.RunsAsWritten`: nothing refuses it, and every number that was raised to a least value had
reached this value before.
-/

namespace Failover

open Time

/-! ## What the check of a configuration asks for -/

namespace EndpointConfig

/-- What is asked of an endpoint by itself. -/
structure Acceptable (readUrl : UrlReader) (c : EndpointConfig) : Prop where
  url_given : Text.isBlank c.url = false
  /-- The URL can be read, and it is one of the web. -/
  scheme : readUrl c.url = .ok "http" ∨ readUrl c.url = .ok "https"
  timeout_ne : c.timeoutMs ≠ 0
  /-- An own number of attempts is not zero. -/
  maxRetries_ne : c.maxRetries ≠ some 0

variable {readUrl : UrlReader}

/-- A URL has no problem exactly if it reads with a scheme of HTTP. -/
lemma urlProblems_eq_nil_iff {url : String} :
    urlProblems readUrl url = [] ↔ readUrl url = .ok "http" ∨ readUrl url = .ok "https" := by
  unfold urlProblems
  cases readUrl url with
  | error reason => simp
  | ok scheme => simp [or_iff_not_imp_left]

/-- An endpoint has no problem if it is acceptable by itself and its URL was not there before. -/
lemma problems_eq_nil_iff {index : Nat} {seen : List String} {c : EndpointConfig} :
    c.problems readUrl index seen = [] ↔ c.Acceptable readUrl ∧ c.url ∉ seen := by
  unfold problems
  cases hblank : Text.isBlank c.url with
  | true =>
    rw [if_pos rfl]
    constructor
    · intro h
      cases h
    · rintro ⟨haccept, -⟩
      rw [haccept.url_given] at hblank
      cases hblank
  | false =>
    rw [if_neg Bool.false_ne_true]
    simp only [List.append_eq_nil_iff, urlProblems_eq_nil_iff, ite_eq_right_iff, List.cons_ne_nil,
      imp_false, List.contains_iff_mem]
    constructor
    · rintro ⟨⟨⟨hscheme, hnew⟩, htimeout⟩, hretries⟩
      exact ⟨⟨hblank, hscheme, htimeout, hretries⟩, hnew⟩
    · rintro ⟨haccept, hnew⟩
      exact ⟨⟨⟨haccept.scheme, hnew⟩, haccept.timeout_ne⟩, haccept.maxRetries_ne⟩

/-- Endpoints have no problem if each is acceptable by itself and no URL comes twice. -/
lemma allProblems_eq_nil_iff {index : Nat} {seen : List String} {cs : List EndpointConfig} :
    allProblems readUrl index seen cs = [] ↔
      (∀ c ∈ cs, c.Acceptable readUrl) ∧ (cs.map url).Nodup ∧ ∀ c ∈ cs, c.url ∉ seen := by
  induction cs generalizing index seen with
  | nil => simp [allProblems]
  | cons c rest ih =>
    unfold allProblems
    dsimp only
    rw [List.append_eq_nil_iff, problems_eq_nil_iff, ih]
    constructor
    · rintro ⟨⟨haccept, hnew⟩, hrest, hdistinct, hunseen⟩
      -- the URL is not blank, so the rest is checked against it as well
      rw [haccept.url_given, if_neg Bool.false_ne_true] at hunseen
      refine ⟨List.forall_mem_cons.mpr ⟨haccept, hrest⟩, ?_, List.forall_mem_cons.mpr ⟨hnew, ?_⟩⟩
      · rw [List.map_cons, List.nodup_cons]
        refine ⟨?_, hdistinct⟩
        intro hmem
        obtain ⟨d, hd, hurl⟩ := List.mem_map.mp hmem
        exact hunseen d hd (List.mem_cons.mpr (Or.inl hurl))
      · intro d hd hseen
        exact hunseen d hd (List.mem_cons_of_mem _ hseen)
    · rintro ⟨haccept, hdistinct, hunseen⟩
      obtain ⟨hfirst, hrest⟩ := List.forall_mem_cons.mp haccept
      obtain ⟨hnew, hunseen⟩ := List.forall_mem_cons.mp hunseen
      rw [List.map_cons, List.nodup_cons] at hdistinct
      obtain ⟨hown, hdistinct⟩ := hdistinct
      refine ⟨⟨hfirst, hnew⟩, hrest, hdistinct, ?_⟩
      rw [hfirst.url_given, if_neg Bool.false_ne_true]
      intro d hd hmem
      rcases List.mem_cons.mp hmem with hurl | hseen
      · exact hown (List.mem_map.mpr ⟨d, hd, hurl⟩)
      · exact hunseen d hd hseen

end EndpointConfig

namespace Config

/-- What the check of a configuration asks for. -/
structure Acceptable (readUrl : UrlReader) (c : Config) : Prop where
  endpoints_ne : c.endpoints ≠ []
  endpoints : ∀ e ∈ c.endpoints, e.Acceptable readUrl
  urls_nodup : (c.endpoints.map EndpointConfig.url).Nodup
  maxRetries_ne : c.retries.maxRetries ≠ 0
  threshold_ne : c.breaker.threshold ≠ 0
  interval_ne : c.healthCheck.intervalMs ≠ 0
  probeMethod_given : Text.isBlank c.healthCheck.probeMethod = false

/-- The settings have no problem exactly if each is there and not zero. -/
lemma commonProblems_eq_nil_iff {c : Config} :
    c.commonProblems = [] ↔ c.retries.maxRetries ≠ 0 ∧ c.breaker.threshold ≠ 0 ∧
      c.healthCheck.intervalMs ≠ 0 ∧ Text.isBlank c.healthCheck.probeMethod = false := by
  unfold commonProblems
  simp

/-- A configuration has no problem exactly if it is acceptable. -/
lemma problems_eq_nil_iff {readUrl : UrlReader} {c : Config} :
    c.problems readUrl = [] ↔ c.Acceptable readUrl := by
  unfold problems
  rw [List.append_eq_nil_iff, List.append_eq_nil_iff, EndpointConfig.allProblems_eq_nil_iff,
    commonProblems_eq_nil_iff]
  constructor
  · rintro ⟨⟨hsome, hendpoints, hurls, -⟩, hretries, hthreshold, hinterval, hmethod⟩
    exact ⟨by simpa using hsome, hendpoints, hurls, hretries, hthreshold, hinterval, hmethod⟩
  · intro h
    refine ⟨⟨?_, h.endpoints, h.urls_nodup, ?_⟩, h.maxRetries_ne, h.threshold_ne, h.interval_ne,
      h.probeMethod_given⟩
    · simpa using h.endpoints_ne
    · intro e _
      exact List.not_mem_nil

end Config

/-! ## Numbers that are large enough already -/

/-- The clamp to one leaves a number that is not zero. -/
lemma max_toNat_one_of_ne {n : UInt32} (h : n ≠ 0) : max n.toNat 1 = n.toNat := by
  have hpos : n.toNat ≠ 0 := fun hzero => h (UInt32.toNat_inj.mp hzero)
  omega

/-- A number of 64 bits that is not zero is positive. -/
lemma toNat_pos_of_ne {n : UInt64} (h : n ≠ 0) : 0 < n.toNat := by
  have hpos : n.toNat ≠ 0 := fun hzero => h (UInt64.toNat_inj.mp hzero)
  omega

/-- A number of milliseconds in a machine word is a span of exactly this length. -/
lemma Duration.nanos_ofMillis_toNat (n : UInt64) :
    (ofMillis n.toNat).nanos = n.toNat * nanosPerMilli := by
  refine nanos_ofNanos_of_lt ?_
  have hlt := n.toNat_lt
  unfold durationLimit nanosPerSecond nanosPerMilli
  omega

/-- A policy makes as many attempts as it is given, unless it is given none. -/
lemma RetryPolicy.maxAttempts_new {n : UInt32} (h : n ≠ 0) (unit : Duration) :
    (new n unit).maxAttempts = n.toNat := max_toNat_one_of_ne h

/-- A prober keeps an interval of at least one millisecond. -/
lemma Prober.interval_new {interval : Duration} (h : nanosPerMilli ≤ interval.nanos)
    (method : String) : (new interval method).interval = interval := by
  have hmin : minInterval.nanos = nanosPerMilli := by decide
  unfold new
  rw [if_neg (by omega)]

/-! ## Managers of accepted configurations -/

/-- A manager of a configuration in which every number is the one that was written: the endpoints
are those of the configuration, each with its own deadline and with its own number of attempts or
the common one, the breakers open at the threshold, and the prober runs at the interval. -/
structure Manager.RunsAsWritten {σ : Type} (m : Manager σ) (c : Config) : Prop where
  endpoints : m.setup.registry.endpoints.Perm (c.endpoints.map Endpoint.ofConfig)
  attempts : ∀ e ∈ c.endpoints, (m.setup.policy.forEndpoint (.ofConfig e)).maxAttempts =
    (e.maxRetries.getD c.retries.maxRetries).toNat
  deadline : ∀ e ∈ c.endpoints,
    (Endpoint.ofConfig e).timeout.nanos = e.timeoutMs.toNat * nanosPerMilli
  threshold : m.world.tracker.threshold = c.breaker.threshold.toNat
  /-- If health checks are enabled a start brings up a prober, and this is its interval. -/
  prober : m.start.1.prober.isSome = c.healthCheck.enabled
  interval : ∀ p, m.start.1.prober = some p →
    p.interval.nanos = c.healthCheck.intervalMs.toNat * nanosPerMilli

variable {readUrl : UrlReader} {c : Config}

/-- Settings from an acceptable configuration can run, whether or not they ask for health checks. -/
lemma Settings.validate_ofConfig (h : c.Acceptable readUrl) : (ofConfig c).validate = .ok () := by
  have hinterval : (ofConfig c).healthCheckInterval.isZero = false := by
    have hpos := toNat_pos_of_ne h.interval_ne
    have hnanos := Duration.nanos_ofMillis_toNat c.healthCheck.intervalMs
    have hne : (ofConfig c).healthCheckInterval.nanos ≠ 0 := by
      show (Duration.ofMillis c.healthCheck.intervalMs.toNat).nanos ≠ 0
      unfold nanosPerMilli at hnanos
      omega
    exact beq_eq_false_iff_ne.mpr hne
  have hmethod : Text.isBlank (ofConfig c).probeMethod = false := h.probeMethod_given
  unfold validate problem?
  rw [hinterval, hmethod]
  cases (ofConfig c).healthChecksEnabled <;> rfl

/-- A manager of an acceptable configuration before anything happened runs as it is written. -/
lemma Manager.runsAsWritten_fresh {σ : Type} (h : c.Acceptable readUrl) {registry : Registry}
    (hregistry : registry.endpoints.Perm (c.endpoints.map Endpoint.ofConfig))
    (transport : Rpc.Transport σ) (wire : σ) (clock : Clock) (draw : Nat → Nat) :
    (fresh registry (Settings.ofConfig c) transport wire clock draw).RunsAsWritten c where
  endpoints := hregistry
  attempts := by
    intro e he
    have hown := (h.endpoints e he).maxRetries_ne
    show (RetryPolicy.withOverride _ e.maxRetries).maxAttempts = _
    cases hretries : e.maxRetries with
    | none => exact RetryPolicy.maxAttempts_new h.maxRetries_ne _
    | some n =>
      have hn : n ≠ 0 := by
        rintro rfl
        exact hown hretries
      exact RetryPolicy.maxAttempts_new hn _
  deadline := fun e _ => Duration.nanos_ofMillis_toNat e.timeoutMs
  threshold := max_toNat_one_of_ne h.threshold_ne
  prober := by
    unfold start fresh Settings.ofConfig
    cases c.healthCheck.enabled <;> rfl
  interval := by
    intro p hp
    have hinterval : nanosPerMilli ≤ (Duration.ofMillis c.healthCheck.intervalMs.toNat).nanos := by
      have hpos := toNat_pos_of_ne h.interval_ne
      rw [Duration.nanos_ofMillis_toNat]
      exact Nat.le_mul_of_pos_left _ hpos
    unfold start fresh at hp
    cases henabled : (Settings.ofConfig c).healthChecksEnabled with
    | false =>
      rw [henabled] at hp
      cases hp
    | true =>
      rw [henabled] at hp
      cases hp
      show (Prober.new (Duration.ofMillis c.healthCheck.intervalMs.toNat) _).interval.nanos = _
      rw [Prober.interval_new hinterval, Duration.nanos_ofMillis_toNat]

/-- **Accepted configurations run as they are written.** However URLs are read: the check of a
configuration finds no problem exactly if it is acceptable, and then its settings pass their own
check, its endpoints make a registry, and the manager that is built from both runs as the
configuration is written. -/
theorem accepted_configs_run_as_written (readUrl : UrlReader) (c : Config) :
    (c.problems readUrl = [] ↔ c.Acceptable readUrl) ∧
      (c.problems readUrl = [] →
        (Settings.ofConfig c).validate = .ok () ∧
          ∃ registry, Registry.ofConfigs c.endpoints = .ok registry ∧
            ∀ {σ : Type} (transport : Rpc.Transport σ) (wire : σ) (clock : Clock)
              (draw : Nat → Nat), ∃ m built,
              Manager.build c.endpoints (Settings.ofConfig c) transport wire clock draw =
                  .ok (m, built) ∧
                m.setup.registry = registry ∧ m.RunsAsWritten c) := by
  refine ⟨Config.problems_eq_nil_iff, ?_⟩
  intro hnone
  have haccept := Config.problems_eq_nil_iff.mp hnone
  have hvalid := Settings.validate_ofConfig haccept
  obtain ⟨registry, hregistry, hperm⟩ : ∃ registry, Registry.ofConfigs c.endpoints = .ok registry ∧
      registry.endpoints.Perm (c.endpoints.map Endpoint.ofConfig) := by
    unfold Registry.ofConfigs
    rw [dif_neg haccept.endpoints_ne]
    exact ⟨_, rfl, Registry.sort_perm _⟩
  refine ⟨hvalid, registry, hregistry, ?_⟩
  intro σ transport wire clock draw
  refine ⟨_, _, Manager.build_eq_ok_iff.mpr ⟨hvalid, registry, hregistry, rfl, rfl⟩, rfl, ?_⟩
  exact Manager.runsAsWritten_fresh haccept hperm transport wire clock draw

/-- Two endpoints, of which the second one has five attempts of its own, and health checks that are
switched off: such a configuration is accepted, and its manager makes three attempts at the first
endpoint and five at the second one. -/
theorem accepted_configs_run_as_written_of_two :
    let scheme : UrlReader := fun url => .ok (if url = "https://b" then "https" else "http")
    let own : EndpointConfig := (EndpointConfig.ofUrl "https://b").withMaxRetries 5
    let c : Config := { Config.standard with
      endpoints := [.ofUrl "http://a", own]
      healthCheck := { HealthCheckConfig.standard with enabled := false } }
    let silent : Rpc.Transport Unit := ⟨fun _ _ _ => (⟨0, .silence⟩, ())⟩
    c.problems scheme = [] ∧ ∃ m built,
      Manager.build c.endpoints (Settings.ofConfig c) silent () .standard (fun _ => 0) =
          .ok (m, built) ∧
        (m.setup.policy.forEndpoint (.ofConfig (.ofUrl "http://a"))).maxAttempts = 3 ∧
        (m.setup.policy.forEndpoint (.ofConfig own)).maxAttempts = 5 ∧
        m.world.tracker.threshold = 5 ∧ m.start.1.prober.isSome = false := by
  intro scheme own c silent
  have hnone : c.problems scheme = [] := by decide
  obtain ⟨-, registry, -, hbuild⟩ := (accepted_configs_run_as_written scheme c).2 hnone
  obtain ⟨m, built, hm, -, hwritten⟩ := hbuild silent () .standard fun _ => 0
  refine ⟨hnone, m, built, hm, ?_, ?_, hwritten.threshold, hwritten.prober⟩
  · exact hwritten.attempts (.ofUrl "http://a") (by decide)
  · exact hwritten.attempts own (by decide)

end Failover
