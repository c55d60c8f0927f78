import Failover.Http.Message
import Failover.Random
import Failover.Rpc.Identifier

/-!
# Transcripts

A `Transcript` is a network whose next exchanges are known already: it replays them in order. A
request beyond them is noted as wanted, and nothing ever comes back. So a program can be run as far
as its network is known; once somebody has carried out what was wanted, it is run again from the
same state and gets further.
-/

namespace Failover

namespace Http

/-- A network whose next exchanges are known. -/
structure Transcript where
  /-- The exchanges that are still to be replayed, with the milliseconds that they took. -/
  known : List (Exchange × Nat)
  /-- The requests that went beyond them, the latest first. -/
  wanted : List (Origin × Request)
  /-- The milliseconds that the latest exchange took. -/
  latency : Nat
  /-- The number of exchanges so far. -/
  count : Nat
  /-- The seed of the identifiers. -/
  seed : UInt64

namespace Transcript

/-- A network of which nothing is known. -/
def blank (seed : UInt64) : Transcript := ⟨[], [], 0, 0, seed⟩

/-- Replays the next exchange. -/
def exchange (t : Transcript) (origin : Origin) (r : Request) : Exchange × Transcript :=
  match t.known with
  | (e, latency) :: known =>
    (e, { t with known := known, latency := latency, count := t.count + 1 })
  | [] =>
    (.silence, { t with wanted := (origin, r) :: t.wanted, latency := 0, count := t.count + 1 })

/-- The network of a transcript. -/
def network : Network Transcript := ⟨exchange, Transcript.latency⟩

/-- The identifier of the next request. -/
def identifier (t : Transcript) : String := Rpc.Identifier.ofBits (Random.wide t.seed t.count)

/-- The transcript that knows more exchanges. -/
def learn (t : Transcript) (found : List (Exchange × Nat)) : Transcript :=
  { t with known := t.known ++ found }

/-- The transcript that does not know the next exchange. -/
def forget (t : Transcript) : Transcript := { t with known := [] }

end Transcript

end Http

end Failover
