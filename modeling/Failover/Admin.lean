import Failover.Manager

/-!
# The status server

What the status server answers: the report under `/status` and a summary under `/health`, whose code
tells whether any endpoint is usable. Both answer `GET` and, without a body, `HEAD`.
-/

namespace Failover

namespace Admin

/-- The version that the summary shows. -/
def version : String := "0.1.0"

/-- An answer of the status server; an empty body is `none`. -/
structure Response where
  code : Nat
  body : Option Json

/-- The code of a summary: some endpoint is usable, or none is. -/
def healthCode (report : StatusReport) : Nat := if 0 < report.usableCount then 200 else 503

/-- The summary of a report. -/
def healthSummary (report : StatusReport) : Json :=
  Json.ofMembers
    [("version", .string version),
      ("status", .string (if 0 < report.usableCount then "operational" else "unavailable")),
      ("usable_endpoints", .int report.usableCount),
      ("healthy_endpoints", .int report.healthyCount),
      ("total_endpoints", .int report.endpoints.length)]

/-- The part of a target in front of its query and its fragment. -/
def pathOf (target : String) : String :=
  String.ofList (target.toList.takeWhile fun c => c != '?' && c != '#')

/-- What a report answers under a path, if there is something. -/
def page? (path : String) (report : StatusReport) : Option Response :=
  if path = "/status" then some ⟨200, some report.toJson⟩
  else if path = "/health" then some ⟨healthCode report, some (healthSummary report)⟩
  else none

/-- Whether there is something under a path. -/
def isKnown (path : String) : Bool := path = "/status" || path = "/health"

variable {σ : Type}

/-- Answers one request. -/
def handle (m : Manager σ) (verb target : String) : Response × Manager σ × Journal :=
  let path := pathOf target
  if !isKnown path then (⟨404, none⟩, m, [])
  else if verb ≠ "GET" && verb ≠ "HEAD" then (⟨405, none⟩, m, [])
  else
    let (report, m, notes) := m.status
    let response := (page? path report).getD ⟨404, none⟩
    (if verb = "HEAD" then { response with body := none } else response, m, notes)

end Admin

end Failover
