import Failover.Config.Validation
import Mathlib.Data.List.Nodup
import Mathlib.Tactic.Common

/-!
# What the check of a configuration reports

`EndpointConfig.HasProblem` and `Config.HasProblem` say what is wrong with an endpoint and with a
configuration as a whole, one problem at a time and without regard to any other. The check of a
configuration reports all of it, endpoint by endpoint and each problem once. The one exception is an
endpoint whose URL is blank: of this one it reports nothing else.

Duplicates are found with a list of the URLs that came before, and blank ones are left out of it.
What carries the proof along the endpoints is that nothing is lost by this (`UrlsOf`), because a URL
that is not blank itself can only be that of an endpoint that was taken in.
-/

namespace Failover

namespace ConfigProblem

/-- A list reports what meets a condition: each such problem once, and no other one. -/
def Reports (report : List ConfigProblem) (P : ConfigProblem → Prop) : Prop :=
  report.Nodup ∧ ∀ p, p ∈ report ↔ P p

variable {l : List ConfigProblem} {P Q : ConfigProblem → Prop}

/-- A check that reports one problem under a condition reports it exactly then. -/
lemma reports_ite (C : Prop) [Decidable C] (p : ConfigProblem) :
    Reports (if C then [p] else []) fun q => C ∧ q = p := by
  by_cases hC : C <;> simp [Reports, hC]

/-- One more problem may be added to a report that does not hold it anyway. -/
lemma Reports.append_ite (h : Reports l P) {p : ConfigProblem} (hnew : ¬ P p) (C : Prop)
    [Decidable C] : Reports (l ++ if C then [p] else []) fun q => P q ∨ (C ∧ q = p) := by
  have hlast := reports_ite C p
  refine ⟨h.1.append hlast.1 ?_, ?_⟩
  · intro q hq hqlast
    obtain ⟨-, rfl⟩ := (hlast.2 q).mp hqlast
    exact hnew ((h.2 q).mp hq)
  · intro q
    rw [List.mem_append, h.2, hlast.2]

/-- A list reports any predicate equivalent to one it reports. -/
lemma Reports.congr (h : Reports l P) (hiff : ∀ p, P p ↔ Q p) : Reports l Q :=
  ⟨h.1, fun p => (h.2 p).trans (hiff p)⟩

end ConfigProblem

open ConfigProblem

/-! ## Endpoints -/

namespace EndpointConfig

/-- What is wrong with the endpoint at an index behind earlier ones, whatever else is wrong. -/
inductive HasProblem (readUrl : UrlReader) (index : Nat) (earlier : List EndpointConfig)
    (c : EndpointConfig) : ConfigProblem → Prop where
  | emptyUrl (blank : Text.isBlank c.url = true) :
      HasProblem readUrl index earlier c (.emptyUrl index)
  | invalidUrl {reason : String} (given : Text.isBlank c.url = false)
      (unread : readUrl c.url = .error reason) :
      HasProblem readUrl index earlier c (.invalidUrl c.url reason)
  | unsupportedScheme {scheme : String} (given : Text.isBlank c.url = false)
      (read : readUrl c.url = .ok scheme) (other : scheme ≠ "http" ∧ scheme ≠ "https") :
      HasProblem readUrl index earlier c (.unsupportedScheme c.url scheme)
  | duplicateUrl (again : ∃ d ∈ earlier, d.url = c.url) :
      HasProblem readUrl index earlier c (.duplicateUrl c.url)
  | zeroTimeout (zero : c.timeoutMs = 0) : HasProblem readUrl index earlier c (.zeroTimeout c.url)
  | zeroEndpointRetries (zero : c.maxRetries = some 0) :
      HasProblem readUrl index earlier c (.zeroEndpointRetries c.url)

/-- What the check reports of an endpoint: what is wrong with it, but nothing else where its URL is
blank. -/
def IsReported (readUrl : UrlReader) (index : Nat) (earlier : List EndpointConfig)
    (c : EndpointConfig) (p : ConfigProblem) : Prop :=
  c.HasProblem readUrl index earlier p ∧ (Text.isBlank c.url = true → p = .emptyUrl index)

/-- A list holds the URLs of endpoints, except the blank ones. -/
def UrlsOf (earlier : List EndpointConfig) (seen : List String) : Prop :=
  ∀ url, url ∈ seen ↔ Text.isBlank url = false ∧ ∃ d ∈ earlier, d.url = url

variable {readUrl : UrlReader} {index : Nat} {earlier : List EndpointConfig} {seen : List String}
  {c : EndpointConfig}

/-- An empty list of endpoints has the empty list of URLs. -/
lemma urlsOf_nil : UrlsOf [] [] := by simp [UrlsOf]

/-- One more endpoint is taken in by its URL, or left out if this is blank. -/
lemma UrlsOf.concat (h : UrlsOf earlier seen) (c : EndpointConfig) :
    UrlsOf (earlier ++ [c]) (if Text.isBlank c.url then seen else c.url :: seen) := by
  intro url
  have hsplit : (∃ d ∈ earlier ++ [c], d.url = url) ↔
      (∃ d ∈ earlier, d.url = url) ∨ c.url = url := by
    simp [or_and_right, exists_or]
  rw [hsplit, and_or_left, ← h url]
  cases hblank : Text.isBlank c.url with
  | true =>
    rw [if_pos rfl]
    refine ⟨Or.inl, ?_⟩
    rintro (hseen | ⟨hgiven, rfl⟩)
    · exact hseen
    · rw [hblank] at hgiven
      cases hgiven
  | false =>
    rw [if_neg Bool.false_ne_true, List.mem_cons]
    constructor
    · rintro (rfl | hseen)
      · exact Or.inr ⟨hblank, rfl⟩
      · exact Or.inl hseen
    · rintro (hseen | ⟨-, rfl⟩)
      · exact Or.inr hseen
      · exact Or.inl rfl

/-- The check of a URL reports what the reader reports, else a scheme that is not HTTP. -/
lemma reports_urlProblems (readUrl : UrlReader) (url : String) :
    Reports (urlProblems readUrl url) fun p =>
      (∃ reason, readUrl url = .error reason ∧ p = .invalidUrl url reason) ∨
        ∃ scheme, readUrl url = .ok scheme ∧ (scheme ≠ "http" ∧ scheme ≠ "https") ∧
          p = .unsupportedScheme url scheme := by
  unfold urlProblems
  cases readUrl url with
  | error reason => simp [Reports]
  | ok scheme =>
    by_cases hweb : scheme = "http" ∨ scheme = "https"
    · rcases hweb with rfl | rfl <;> simp [Reports]
    · obtain ⟨hhttp, hhttps⟩ := not_or.mp hweb
      simp [Reports, hhttp, hhttps]

/-- An endpoint is reported with all of its problems, or with its blank URL alone. -/
lemma reports_problems (hseen : UrlsOf earlier seen) :
    Reports (c.problems readUrl index seen) (c.IsReported readUrl index earlier) := by
  unfold problems IsReported
  cases hblank : Text.isBlank c.url with
  | true =>
    rw [if_pos rfl]
    refine ⟨List.nodup_singleton _, ?_⟩
    intro p
    rw [List.mem_singleton]
    constructor
    · rintro rfl
      exact ⟨.emptyUrl hblank, fun _ => rfl⟩
    · rintro ⟨-, honly⟩
      exact honly rfl
  | false =>
    rw [if_neg Bool.false_ne_true]
    have hagain : seen.contains c.url = true ↔ ∃ d ∈ earlier, d.url = c.url := by
      rw [List.contains_iff_mem, hseen, hblank]
      exact and_iff_right rfl
    -- the problems that may come after those of the URL are all of kinds of their own
    refine ((((reports_urlProblems readUrl c.url).append_ite ?_ _).append_ite ?_ _).append_ite ?_
      _).congr ?_
    · simp
    · simp
    · simp
    · intro p
      constructor
      · intro hp
        refine ⟨?_, fun h => absurd h Bool.false_ne_true⟩
        rcases hp with (((⟨reason, hread, rfl⟩ | ⟨scheme, hread, hother, rfl⟩) | ⟨hsame, rfl⟩) |
          ⟨hzero, rfl⟩) | ⟨hzero, rfl⟩
        · exact .invalidUrl hblank hread
        · exact .unsupportedScheme hblank hread hother
        · exact .duplicateUrl (hagain.mp hsame)
        · exact .zeroTimeout hzero
        · exact .zeroEndpointRetries hzero
      · rintro ⟨hp, -⟩
        cases hp with
        | emptyUrl blank =>
          rw [hblank] at blank
          cases blank
        | invalidUrl _ unread => exact .inl (.inl (.inl (.inl ⟨_, unread, rfl⟩)))
        | unsupportedScheme _ read other => exact .inl (.inl (.inl (.inr ⟨_, read, other, rfl⟩)))
        | duplicateUrl again => exact .inl (.inl (.inr ⟨hagain.mpr again, rfl⟩))
        | zeroTimeout zero => exact .inl (.inr ⟨zero, rfl⟩)
        | zeroEndpointRetries zero => exact .inr ⟨zero, rfl⟩

/-- The endpoints behind earlier ones are reported one by one. -/
lemma exists_reports (readUrl : UrlReader) (hseen : UrlsOf earlier seen)
    (cs : List EndpointConfig) :
    ∃ reports : List (List ConfigProblem),
      allProblems readUrl earlier.length seen cs = reports.flatten ∧
        List.Forall₂ (fun (e, index) report =>
            Reports report (e.IsReported readUrl index ((earlier ++ cs).take index)))
          (cs.zipIdx earlier.length) reports := by
  induction cs generalizing earlier seen with
  | nil => exact ⟨[], rfl, .nil⟩
  | cons c rest ih =>
    obtain ⟨reports, hreports, hall⟩ := ih (hseen.concat c)
    rw [List.length_append, List.length_singleton] at hreports hall
    rw [List.append_assoc, List.singleton_append] at hall
    refine ⟨c.problems readUrl earlier.length seen :: reports, ?_, ?_⟩
    · unfold allProblems
      dsimp only
      rw [hreports, List.flatten_cons]
    · rw [List.zipIdx_cons]
      refine .cons ?_ hall
      dsimp only
      rw [List.take_left]
      exact reports_problems hseen

end EndpointConfig

/-! ## Whole configurations -/

namespace Config

/-- What is wrong with a configuration as a whole, whatever else is wrong. -/
inductive HasProblem (c : Config) : ConfigProblem → Prop where
  | noEndpoints (none : c.endpoints = []) : HasProblem c .noEndpoints
  | zeroRetries (zero : c.retries.maxRetries = 0) : HasProblem c .zeroRetries
  | zeroBreakerThreshold (zero : c.breaker.threshold = 0) : HasProblem c .zeroBreakerThreshold
  | zeroProbeInterval (zero : c.healthCheck.intervalMs = 0) : HasProblem c .zeroProbeInterval
  | emptyProbeMethod (blank : Text.isBlank c.healthCheck.probeMethod = true) :
      HasProblem c .emptyProbeMethod

/-- The checks of the whole configuration report exactly its own problems. -/
lemma reports_overall (c : Config) :
    Reports ((if c.endpoints.isEmpty then [.noEndpoints] else []) ++ c.commonProblems)
      c.HasProblem := by
  unfold commonProblems
  simp only [← List.append_assoc]
  refine (((((reports_ite _ _).append_ite ?_ _).append_ite ?_ _).append_ite ?_ _).append_ite ?_
    _).congr ?_
  · simp
  · simp
  · simp
  · simp
  · intro p
    constructor
    · rintro ((((⟨hnone, rfl⟩ | ⟨hzero, rfl⟩) | ⟨hzero, rfl⟩) | ⟨hzero, rfl⟩) | ⟨hblank, rfl⟩)
      · exact .noEndpoints (List.isEmpty_iff.mp hnone)
      · exact .zeroRetries hzero
      · exact .zeroBreakerThreshold hzero
      · exact .zeroProbeInterval hzero
      · exact .emptyProbeMethod hblank
    · intro hp
      cases hp with
      | noEndpoints none => exact .inl (.inl (.inl (.inl ⟨List.isEmpty_iff.mpr none, rfl⟩)))
      | zeroRetries zero => exact .inl (.inl (.inl (.inr ⟨zero, rfl⟩)))
      | zeroBreakerThreshold zero => exact .inl (.inl (.inr ⟨zero, rfl⟩))
      | zeroProbeInterval zero => exact .inl (.inr ⟨zero, rfl⟩)
      | emptyProbeMethod blank => exact .inr ⟨blank, rfl⟩

/-- **Every problem is reported, but for those of endpoints without a URL.** The check of a
configuration reports what is wrong with each endpoint, in order, and what is wrong with the
configuration as a whole, and it reports each problem of an endpoint once, whatever else is wrong.
Only of an endpoint whose URL is blank it reports nothing but this. -/
theorem problems_report_every_endpoint (readUrl : UrlReader) (c : Config) :
    ∃ first reports last, c.problems readUrl = first ++ reports.flatten ++ last ∧
      List.Forall₂ (fun (e, index) report =>
          Reports report (e.IsReported readUrl index (c.endpoints.take index)))
        c.endpoints.zipIdx reports ∧
      Reports (first ++ last) c.HasProblem := by
  obtain ⟨reports, hreports, hall⟩ :=
    EndpointConfig.exists_reports readUrl EndpointConfig.urlsOf_nil c.endpoints
  refine ⟨_, reports, c.commonProblems, ?_, hall, reports_overall c⟩
  unfold problems
  rw [← hreports]
  rfl

example :
    let e : EndpointConfig :=
      { EndpointConfig.ofUrl "node" with timeoutMs := 0, maxRetries := some 0 }
    let c : Config := { standard with endpoints := [e, e] }
    c.problems (fun _ => .error "relative URL without a base") =
      [.invalidUrl "node" "relative URL without a base", .zeroTimeout "node",
        .zeroEndpointRetries "node", .invalidUrl "node" "relative URL without a base",
        .duplicateUrl "node", .zeroTimeout "node", .zeroEndpointRetries "node"] := by
  decide

/-- An endpoint with a blank URL and a timeout of zero: the timeout is wrong as well, but it is not
reported. -/
theorem zero_timeout_of_blank_url_goes_unreported :
    let e : EndpointConfig := { EndpointConfig.ofUrl "" with timeoutMs := 0 }
    let c : Config := { standard with endpoints := [e] }
    c.endpoints[0]? = some e ∧
      e.HasProblem Url.schemeOf 0 (c.endpoints.take 0) (.zeroTimeout e.url) ∧
      .zeroTimeout e.url ∉ c.standardProblems ∧ c.standardProblems = [.emptyUrl 0] := by
  intro e c
  have hreport : c.standardProblems = [.emptyUrl 0] := by decide
  refine ⟨rfl, .zeroTimeout rfl, ?_, hreport⟩
  rw [hreport]
  decide

end Config

end Failover
