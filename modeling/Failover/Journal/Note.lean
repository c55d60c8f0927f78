import Failover.Journal.Event
import Failover.Journal.Measurement
import Failover.Rpc.Envelope

/-!
# The journal

Everything that a run leaves behind apart from its state, in order: log events, measurements, and
the requests that were sent.
-/

namespace Failover

/-- A request that was sent to a URL, at a time in milliseconds. -/
structure Sending where
  time : Nat
  url : String
  request : Rpc.Request
deriving Inhabited

/-- An entry of the journal. -/
inductive Note where
  | event (e : Event)
  | measured (m : Measurement)
  | sent (s : Sending)

/-- The entries of a run in order. -/
abbrev Journal := List Note

namespace Journal

/-- The log events. -/
def events (j : Journal) : List Event :=
  j.filterMap fun
    | .event e => some e
    | _ => none

/-- The measurements. -/
def measurements (j : Journal) : List Measurement :=
  j.filterMap fun
    | .measured m => some m
    | _ => none

/-- The requests that were sent. -/
def sendings (j : Journal) : List Sending :=
  j.filterMap fun
    | .sent s => some s
    | _ => none

/-- The events of a longer journal are those of its parts, in order. -/
@[simp] theorem events_append (j k : Journal) : events (j ++ k) = events j ++ events k := by
  simp [events]

/-- The measurements of a longer journal are those of its parts, in order. -/
@[simp] theorem measurements_append (j k : Journal) :
    measurements (j ++ k) = measurements j ++ measurements k := by
  simp [measurements]

/-- What is sent in a longer journal is what is sent in its parts, in order. -/
@[simp] theorem sendings_append (j k : Journal) : sendings (j ++ k) = sendings j ++ sendings k := by
  simp [sendings]

@[simp] theorem measurements_nil : measurements [] = [] := rfl

@[simp] theorem measurements_cons_event (e : Event) (j : Journal) :
    measurements (.event e :: j) = measurements j := rfl

@[simp] theorem measurements_cons_measured (m : Measurement) (j : Journal) :
    measurements (.measured m :: j) = m :: measurements j := rfl

@[simp] theorem measurements_cons_sent (s : Sending) (j : Journal) :
    measurements (.sent s :: j) = measurements j := rfl

@[simp] theorem sendings_nil : sendings [] = [] := rfl

@[simp] theorem sendings_cons_event (e : Event) (j : Journal) :
    sendings (.event e :: j) = sendings j := rfl

@[simp] theorem sendings_cons_measured (m : Measurement) (j : Journal) :
    sendings (.measured m :: j) = sendings j := rfl

@[simp] theorem sendings_cons_sent (s : Sending) (j : Journal) :
    sendings (.sent s :: j) = s :: sendings j := rfl

end Journal

end Failover
