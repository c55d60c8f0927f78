import Failover.Rpc.Transport

/-!
# Scripted transports

A script lists for each URL the answers that its requests get, in order. The last one repeats.
-/

namespace Failover

namespace Rpc

/-- The answers that are still to come, by URL. -/
abbrev Script := List (String × List Answer)

namespace Script

/-- The answer of a URL without a script. -/
def missing : Answer := ⟨0, .result (.error (.transport "no script"))⟩

/-- Replaces the answers of a URL. -/
def assign (s : Script) (url : String) (answers : List Answer) : Script :=
  (url, answers) :: s.filter fun entry => entry.1 ≠ url

/-- The next answer of a URL. The last one stays. -/
def next (s : Script) (url : String) : Answer × Script :=
  match s.lookup url with
  | none | some [] => (missing, s)
  | some [a] => (a, s)
  | some (a :: rest) => (a, s.assign url rest)

/-- The transport that plays a script. -/
def transport : Transport Script where
  send s endpoint _ := s.next endpoint.url

end Script

end Rpc

end Failover
