import Failover.Proofs.Config.Redaction
import Mathlib.Data.List.Forall2

/-!
# Loading configurations

What a text loads to depends on what it decodes to, on the environment and on the check.
`Config.FilledIn` says how the loaded configuration differs from the decoded one, and
`Config.load_reports_missing_and_invalid` when there is one and what is reported otherwise.

Passwords are filled in before the check, and where a variable is not set the check sees whatever
password was there. No password is looked at in the check (`Config.problems_redact`), so what it
finds is what is wrong with the decoded configuration, whichever variables are set.
-/

namespace Failover

/-! ## Endpoints -/

namespace EndpointConfig

/-- The variable that an endpoint names for its password, if this variable is not set. -/
def unset? (env : Environment) (c : EndpointConfig) : Option String :=
  c.passwordEnv.filter fun name => (env name).isNone

/-- An endpoint is loaded as it is given, but with the value of the variable that it names for its
password, if it names one. -/
structure FilledIn (env : Environment) (given loaded : EndpointConfig) : Prop where
  /-- Nothing but the password differs. -/
  rest : loaded = { given with password := loaded.password }
  own : given.passwordEnv = none → loaded.password = given.password
  named : ∀ name, given.passwordEnv = some name → env name = some loaded.password

variable {env : Environment} {c : EndpointConfig}

/-- Where no variable is missing, resolving fills the password in. -/
lemma filledIn_resolve (h : c.unset? env = none) : c.FilledIn env (c.resolve env) := by
  cases hname : c.passwordEnv with
  | none =>
    have hresolve : c.resolve env = c := by
      unfold resolve
      rw [hname]
    rw [hresolve]
    refine ⟨rfl, fun _ => rfl, ?_⟩
    intro name hnamed
    cases hname.symm.trans hnamed
  | some name =>
    cases hvalue : env name with
    | none => simp [unset?, hname, hvalue] at h
    | some password =>
      have hresolve : c.resolve env = { c with password := password } := by
        unfold resolve
        rw [hname]
        dsimp only
        rw [hvalue]
      rw [hresolve]
      refine ⟨rfl, ?_, ?_⟩
      · intro hnone
        cases hname.symm.trans hnone
      · intro other hother
        obtain rfl := Option.some.inj (hname.symm.trans hother)
        exact hvalue

/-- An endpoint is reported if its variable is missing. -/
lemma missingEnv_eq (env : Environment) (c : EndpointConfig) :
    c.missingEnv env = ((c.unset? env).map (.missingPasswordEnv c.url)).toList := by
  unfold missingEnv unset?
  cases c.passwordEnv with
  | none => rfl
  | some name => cases hvalue : env name <;> simp [Option.filter, hvalue]

end EndpointConfig

/-! ## Whole configurations -/

namespace Config

/-- A configuration is loaded as it is given, except for the passwords that are filled in. -/
structure FilledIn (env : Environment) (given loaded : Config) : Prop where
  /-- Nothing but the endpoints differs. -/
  rest : loaded = { given with endpoints := loaded.endpoints }
  endpoints : List.Forall₂ (EndpointConfig.FilledIn env) given.endpoints loaded.endpoints

/-- The missing variables, by endpoint and in order. -/
def unsetEnvs (env : Environment) (c : Config) : List ConfigProblem :=
  c.endpoints.filterMap fun e => (e.unset? env).map (.missingPasswordEnv e.url)

variable {decode : String → Option Config} {readUrl : UrlReader} {env : Environment}
  {text : String} {given : Config}

/-- The variables reported missing are those that are not set. -/
lemma missingEnvs_eq (env : Environment) (c : Config) : c.missingEnvs env = c.unsetEnvs env := by
  unfold missingEnvs unsetEnvs
  rw [List.filterMap_eq_flatMap_toList]
  exact List.flatMap_congr fun e _ => e.missingEnv_eq env

/-- None is reported exactly when no endpoint misses its own. -/
lemma unsetEnvs_eq_nil_iff {c : Config} :
    c.unsetEnvs env = [] ↔ ∀ e ∈ c.endpoints, e.unset? env = none := by
  simp [unsetEnvs]

/-- When no variable is missing, the resolved configuration is the given one filled in. -/
lemma filledIn_resolve (h : ∀ e ∈ given.endpoints, e.unset? env = none) :
    given.FilledIn env (given.resolve env) where
  rest := rfl
  endpoints := by
    unfold resolve
    rw [List.forall₂_map_right_iff, List.forall₂_same]
    exact fun e he => EndpointConfig.filledIn_resolve (h e he)

/-- Whatever passwords are filled in, the check finds the same. -/
lemma problems_resolve (env : Environment) (c : Config) :
    (c.resolve env).problems readUrl = c.problems readUrl := by
  rw [← problems_redact, redact_resolve, problems_redact]

/-- A text is loaded if there is nothing to report. -/
lemma load_eq_ok (hdecode : decode text = some given)
    (hnone : given.unsetEnvs env ++ given.problems readUrl = []) :
    load decode readUrl env text = .ok (given.resolve env) := by
  unfold load
  rw [hdecode]
  dsimp only
  rw [missingEnvs_eq, problems_resolve, hnone]

/-- Whatever there is to report is reported together. -/
lemma load_eq_error (hdecode : decode text = some given)
    (hsome : given.unsetEnvs env ++ given.problems readUrl ≠ []) :
    load decode readUrl env text =
      .error (.invalid (given.unsetEnvs env ++ given.problems readUrl)) := by
  unfold load
  rw [hdecode]
  dsimp only
  rw [missingEnvs_eq, problems_resolve]
  split
  case h_1 hnone => exact absurd hnone hsome
  case h_2 => rfl

/-- **Loading reports missing variables together with whatever else is wrong.** A text that does not
decode is malformed. One that does is loaded exactly if every variable that is named for a password
is set and the check finds nothing wrong, and then it is loaded as it is given, with these passwords
filled in. Otherwise all missing variables are reported, in the order of the endpoints, and then all
that the check finds wrong with the configuration as it is given. -/
theorem load_reports_missing_and_invalid (decode : String → Option Config) (readUrl : UrlReader)
    (env : Environment) (text : String) :
    (decode text = none → load decode readUrl env text = .error .malformed) ∧
      ∀ given, decode text = some given →
        ((∃ loaded, load decode readUrl env text = .ok loaded) ↔
          (∀ e ∈ given.endpoints, e.unset? env = none) ∧ given.problems readUrl = []) ∧
        (∀ loaded, load decode readUrl env text = .ok loaded → given.FilledIn env loaded) ∧
        (∀ error, load decode readUrl env text = .error error →
          error = .invalid (given.unsetEnvs env ++ given.problems readUrl)) := by
  refine ⟨?_, ?_⟩
  · intro hnone
    unfold load
    rw [hnone]
  · intro given hdecode
    by_cases hreport : given.unsetEnvs env ++ given.problems readUrl = []
    · rw [load_eq_ok hdecode hreport]
      obtain ⟨hset, hvalid⟩ := List.append_eq_nil_iff.mp hreport
      rw [unsetEnvs_eq_nil_iff] at hset
      refine ⟨iff_of_true ⟨_, rfl⟩ ⟨hset, hvalid⟩, ?_, ?_⟩
      · intro loaded hloaded
        cases hloaded
        exact filledIn_resolve hset
      · intro error herror
        cases herror
    · rw [load_eq_error hdecode hreport]
      refine ⟨iff_of_false ?_ ?_, ?_, ?_⟩
      · rintro ⟨loaded, hloaded⟩
        cases hloaded
      · rintro ⟨hset, hvalid⟩
        exact hreport (List.append_eq_nil_iff.mpr ⟨unsetEnvs_eq_nil_iff.mpr hset, hvalid⟩)
      · intro loaded hloaded
        cases hloaded
      · intro error herror
        cases herror
        rfl

/-- One endpoint names a variable that is set, and its password is filled in. A second one names a
variable that is not set, and its timeout is zero: both are reported. -/
theorem load_reports_missing_and_invalid_of_two :
    let scheme : UrlReader := fun _ => .ok "http"
    let env : Environment := fun name => if name = "KEY" then some "secret" else none
    let a := { EndpointConfig.ofUrl "http://a" with passwordEnv := some "KEY" }
    let b := { EndpointConfig.ofUrl "http://b" with passwordEnv := some "GONE", timeoutMs := 0 }
    (∃ loaded, load (fun _ => some { standard with endpoints := [a] }) scheme env "" = .ok loaded ∧
      loaded.endpoints.map EndpointConfig.password = ["secret"]) ∧
    load (fun _ => some { standard with endpoints := [a, b] }) scheme env "" =
      .error (.invalid [.missingPasswordEnv "http://b" "GONE", .zeroTimeout "http://b"]) := by
  intro scheme env a b
  refine ⟨?_, ?_⟩
  · let given : Config := { standard with endpoints := [a] }
    obtain ⟨-, hdecoded⟩ := load_reports_missing_and_invalid (fun _ => some given) scheme env ""
    obtain ⟨hloads, hfilled, -⟩ := hdecoded given rfl
    obtain ⟨loaded, hloaded⟩ := hloads.mpr ⟨by decide, by decide⟩
    refine ⟨loaded, hloaded, ?_⟩
    have hall : List.Forall₂ (EndpointConfig.FilledIn env) [a] loaded.endpoints :=
      (hfilled loaded hloaded).endpoints
    obtain ⟨e, rest, hfirst, hrest, hendpoints⟩ := List.forall₂_cons_left_iff.mp hall
    obtain rfl := List.forall₂_nil_left_iff.mp hrest
    have hpassword : some "secret" = some e.password := hfirst.named "KEY" rfl
    rw [hendpoints, List.map_cons, ← Option.some.inj hpassword]
    rfl
  · let given : Config := { standard with endpoints := [a, b] }
    obtain ⟨-, hdecoded⟩ := load_reports_missing_and_invalid (fun _ => some given) scheme env ""
    obtain ⟨hloads, -, hreported⟩ := hdecoded given rfl
    cases hload : load (fun _ => some given) scheme env "" with
    | ok loaded =>
      obtain ⟨hset, -⟩ := hloads.mp ⟨loaded, hload⟩
      exact absurd (hset b (by decide)) (by decide)
    | error error =>
      rw [hreported error hload]
      decide

end Config

end Failover
