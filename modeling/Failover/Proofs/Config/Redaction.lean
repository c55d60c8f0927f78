import Failover.Config.Load
import Failover.Registry
import Mathlib.Data.List.Basic
import Mathlib.Tactic.Common

/-!
# Configurations without their passwords

`redact` leaves the password out, of an endpoint and of whatever keeps endpoints. What is the same
for a configuration and for its redaction does not depend on any password, and so it is with
diagnostic texts and with everything that is found wrong. Filling in a password from the environment
changes nothing but the password, so of the environment it matters only which variables are set
(`Config.load_congr`).
-/

namespace Failover

/-! ## Endpoints -/

/-- The configuration of an endpoint without its password. -/
def EndpointConfig.redact (c : EndpointConfig) : EndpointConfig := { c with password := "" }

/-- An endpoint without its password. -/
def Endpoint.redact (e : Endpoint) : Endpoint := { e with password := "" }

/-- A configuration without the passwords of its endpoints. -/
def Config.redact (c : Config) : Config := { c with endpoints := c.endpoints.map .redact }

/-- A registry whose endpoints have no passwords. -/
def Registry.redact (r : Registry) : Registry where
  endpoints := r.endpoints.map Endpoint.redact
  nonempty := by simpa using r.nonempty
  ordered := List.pairwise_map.mpr r.ordered

namespace EndpointConfig

/-- Endpoints that differ in their passwords alone have the same texts. -/
lemma map_toText_congr {cs cs' : List EndpointConfig} (h : cs.map redact = cs'.map redact) :
    cs.map toText = cs'.map toText := by
  have htexts := congrArg (List.map toText) h
  rw [List.map_map, List.map_map] at htexts
  exact htexts

/-- So do the endpoints that are made from them. -/
lemma map_ofConfig_toText_congr {cs cs' : List EndpointConfig}
    (h : cs.map redact = cs'.map redact) :
    (cs.map Endpoint.ofConfig).map Endpoint.toText =
      (cs'.map Endpoint.ofConfig).map Endpoint.toText := by
  have htexts := congrArg (List.map fun c => (Endpoint.ofConfig c).toText) h
  rw [List.map_map, List.map_map] at htexts
  rw [List.map_map, List.map_map]
  exact htexts

/-- A password is not looked at in the search for problems. -/
lemma allProblems_redact (readUrl : UrlReader) (index : Nat) (seen : List String)
    (cs : List EndpointConfig) :
    allProblems readUrl index seen (cs.map redact) = allProblems readUrl index seen cs := by
  induction cs generalizing index seen with
  | nil => rfl
  | cons c rest ih =>
    show c.problems readUrl index seen ++ allProblems readUrl (index + 1) _ (rest.map redact) = _
    rw [ih]
    rfl

/-- Filling in a password changes nothing else. -/
lemma redact_resolve (env : Environment) (c : EndpointConfig) :
    (c.resolve env).redact = c.redact := by
  unfold resolve
  split
  case h_1 => rfl
  case h_2 name _ => cases env name <;> rfl

/-- Two environments set the same of the variables that an endpoint names. -/
def SetAlike (env env' : Environment) (c : EndpointConfig) : Prop :=
  ∀ name, c.passwordEnv = some name → (env name).isSome = (env' name).isSome

/-- The same ones are set if only proper names are looked up. -/
lemma SetAlike.proper {env env' : Environment} {c : EndpointConfig} (h : c.SetAlike env env') :
    c.SetAlike (Config.properEnv env) (Config.properEnv env') := by
  intro name hname
  unfold Config.properEnv
  split
  · exact h name hname
  · rfl

/-- Which variable an endpoint misses depends only on which variables are set. -/
lemma missingEnv_congr {env env' : Environment} {c : EndpointConfig} (h : c.SetAlike env env') :
    c.missingEnv env = c.missingEnv env' := by
  unfold missingEnv
  cases hname : c.passwordEnv with
  | none => rfl
  | some name =>
    dsimp only
    rw [h name hname]

end EndpointConfig

/-! ## Registries -/

namespace Registry

variable (r : Registry)

/-- The endpoint at an index of the redacted registry is the redacted one. -/
lemma get?_redact (index : Nat) : r.redact.get? index = (r.get? index).map Endpoint.redact :=
  List.getElem?_map

/-- Redaction keeps the number of endpoints. -/
lemma size_redact : r.redact.size = r.size := List.length_map _

/-- Redaction keeps which endpoint is the last. -/
lemma isLast_redact (index : Nat) : r.redact.isLast index = r.isLast index := by
  unfold isLast
  rw [size_redact]

/-- The primary endpoint of the redacted registry is the redacted one. -/
lemma primary_redact : r.redact.primary = r.primary.redact := List.head_map _

/-- A password does not matter for the order. -/
lemma sort_redact (endpoints : List Endpoint) :
    sort (endpoints.map Endpoint.redact) = (sort endpoints).map Endpoint.redact := by
  have hkey : ∀ a ∈ endpoints, ∀ b ∈ endpoints, precedes a b = precedes a.redact b.redact :=
    fun _ _ _ _ => rfl
  exact (List.map_mergeSort hkey).symm

/-- The registry of configurations without passwords is their registry without passwords. -/
lemma ofConfigs_redact (cs : List EndpointConfig) :
    ofConfigs (cs.map .redact) = (ofConfigs cs).map redact := by
  cases cs with
  | nil => rfl
  | cons c rest =>
    unfold ofConfigs
    rw [dif_neg (by simp), dif_neg (by simp)]
    have hcomm : ((c :: rest).map EndpointConfig.redact).map Endpoint.ofConfig =
        ((c :: rest).map Endpoint.ofConfig).map Endpoint.redact := by
      rw [List.map_map, List.map_map]
      rfl
    simp only [hcomm, sort_redact]
    rfl

end Registry

/-! ## Whole configurations -/

namespace Config

variable {env env' : Environment} {readUrl : UrlReader} {c c' : Config}

/-- The text of a configuration shows no password, so redaction leaves it as it is. -/
lemma toText_redact (c : Config) : c.redact.toText = c.toText := by
  have htexts : c.redact.endpoints.map EndpointConfig.toText =
      c.endpoints.map EndpointConfig.toText := by
    show (c.endpoints.map EndpointConfig.redact).map EndpointConfig.toText = _
    rw [List.map_map]
    rfl
  unfold toText Text.list
  rw [htexts]
  rfl

/-- Configurations that differ in passwords alone have the same text. -/
lemma toText_congr (h : c.redact = c'.redact) : c.toText = c'.toText := by
  rw [← toText_redact c, h, toText_redact]

/-- Validation reports the same problems of the redacted configuration. -/
lemma problems_redact (c : Config) : c.redact.problems readUrl = c.problems readUrl := by
  have hempty : c.redact.endpoints.isEmpty = c.endpoints.isEmpty := List.isEmpty_map
  unfold problems
  rw [hempty]
  show _ ++ EndpointConfig.allProblems readUrl 0 [] (c.endpoints.map .redact) ++ _ = _
  rw [EndpointConfig.allProblems_redact]
  rfl

/-- Filling in the passwords changes nothing else. -/
lemma redact_resolve (env : Environment) (c : Config) : (c.resolve env).redact = c.redact := by
  unfold resolve redact
  rw [List.map_map]
  congr 1
  exact List.map_congr_left fun e _ => e.redact_resolve env

/-- The same variables are missing if the same ones are set. -/
lemma missingEnvs_congr (h : c.redact = c'.redact)
    (henv : ∀ e ∈ c.endpoints, e.SetAlike env env') : c.missingEnvs env = c'.missingEnvs env' := by
  have hredact : ∀ d : Config, d.redact.missingEnvs env' = d.missingEnvs env' := by
    intro d
    show (d.endpoints.map EndpointConfig.redact).flatMap _ = _
    rw [List.flatMap_map]
    rfl
  rw [← hredact c', ← h, hredact]
  exact List.flatMap_congr fun e he => EndpointConfig.missingEnv_congr (henv e he)

/-- Two texts load alike if they decode to configurations that differ in passwords alone and the
same variables are set: with the same error, or to such configurations again. -/
lemma load_congr {decode : String → Option Config} {text text' : String}
    (h : (decode text).map redact = (decode text').map redact)
    (henv : ∀ c, decode text = some c → ∀ e ∈ c.endpoints, e.SetAlike env env') :
    (load decode readUrl env text).map redact = (load decode readUrl env' text').map redact := by
  unfold load
  cases hc : decode text with
  | none =>
    have hc' : decode text' = none := by simpa [hc] using h.symm
    rw [hc']
  | some c =>
    obtain ⟨c', hc', hredact⟩ : ∃ c', decode text' = some c' ∧ c.redact = c'.redact := by
      rw [hc, Option.map_some] at h
      obtain ⟨c', hc', hredact⟩ := Option.map_eq_some_iff.mp h.symm
      exact ⟨c', hc', hredact.symm⟩
    rw [hc']
    dsimp only
    have hmissing := missingEnvs_congr hredact (henv c hc)
    have hresolved : (c.resolve env).redact = (c'.resolve env').redact := by
      rw [redact_resolve, redact_resolve, hredact]
    have hproblems : (c.resolve env).problems readUrl = (c'.resolve env').problems readUrl := by
      rw [← problems_redact (c.resolve env), hresolved, problems_redact]
    rw [hmissing, hproblems]
    cases c'.missingEnvs env' ++ (c'.resolve env').problems readUrl with
    | nil => exact congrArg Except.ok hresolved
    | cons p ps => rfl

end Config

end Failover
