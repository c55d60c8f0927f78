/-!
# The stop signal

A stop signal has any number of listeners. Only the newest message is kept: a listener that missed
some learns first how many, then gets the newest one. A listener does not see what was sent before
it began to listen.
-/

namespace Failover

/-- A stop signal with its listeners. -/
structure Shutdown where
  /-- The number of messages sent. -/
  sent : Nat
  /-- For each listener the number of messages it is done with; none once it is gone. -/
  listeners : List (Option Nat)
  /-- Whether messages can still be sent. -/
  isOpen : Bool
deriving DecidableEq, Inhabited

/-- What a listener finds. -/
inductive StopNotice where
  | stop
  | empty
  | closed
  /-- So many messages are lost. -/
  | lagged (missed : Nat)
deriving DecidableEq, Inhabited

namespace Shutdown

/-- A signal without listeners. -/
def new : Shutdown := ⟨0, [], true⟩

/-- The number of listeners that are still there. -/
def listening (s : Shutdown) : Nat := s.listeners.countP Option.isSome

/-- Adds a listener and gives its number. -/
def subscribe? (s : Shutdown) : Option (Nat × Shutdown) :=
  if s.isOpen then
    some (s.listeners.length, { s with listeners := s.listeners ++ [some s.sent] })
  else none

/-- Sends the signal and gives the number of listeners. Without any it is not sent. -/
def trigger? (s : Shutdown) : Option (Nat × Shutdown) :=
  if s.isOpen then
    some (s.listening, if s.listening = 0 then s else { s with sent := s.sent + 1 })
  else none

/-- Sets how many messages a listener is done with. -/
def setListener (s : Shutdown) (index : Nat) (position : Option Nat) : Shutdown :=
  { s with listeners := s.listeners.set index position }

/-- What a listener finds, if it is there. -/
def receive? (s : Shutdown) (index : Nat) : Option (StopNotice × Shutdown) :=
  match s.listeners[index]? with
  | some (some position) =>
    if position = s.sent then some (if s.isOpen then .empty else .closed, s)
    else if position + 1 = s.sent then some (.stop, s.setListener index (some s.sent))
    else some (.lagged (s.sent - 1 - position), s.setListener index (some (s.sent - 1)))
  | _ => none

/-- Removes a listener. -/
def leave (s : Shutdown) (index : Nat) : Shutdown := s.setListener index none

/-- Ends the sending of messages. -/
def close (s : Shutdown) : Shutdown := { s with isOpen := false }

end Shutdown

end Failover
