import Failover.Net.SocketAddress
import Failover.Text.Quoted

/-!
# Listening

A program listens at an address of its `Machine` unless something else does already. An address may
also name the machine.
-/

namespace Failover

namespace Net

/-- Why a program cannot listen at an address. -/
inductive ListenProblem where
  | inUse
  /-- The address belongs to another machine. -/
  | notLocal
  /-- There is no port. -/
  | malformedAddress
  | malformedPort
  | unknownHost
deriving DecidableEq, Inhabited

namespace ListenProblem

/-- The problem in words. -/
def message : ListenProblem → String
  | inUse => "Address already in use (os error 98)"
  | notLocal => "Cannot assign requested address (os error 99)"
  | malformedAddress => "invalid socket address"
  | malformedPort => "invalid port value"
  | unknownHost => "failed to lookup address information: Temporary failure in name resolution"

/-- The problem in diagnostic form. -/
def toText (p : ListenProblem) : String :=
  match p with
  | inUse =>
    Text.record "Os"
      [("code", "98"), ("kind", "AddrInUse"), ("message", Text.quoted "Address already in use")]
  | notLocal =>
    Text.record "Os"
      [("code", "99"), ("kind", "AddrNotAvailable"),
        ("message", Text.quoted "Cannot assign requested address")]
  | malformedAddress | malformedPort =>
    Text.record "Error" [("kind", "InvalidInput"), ("message", Text.quoted p.message)]
  | unknownHost =>
    Text.record "Custom" [("kind", "Uncategorized"), ("error", Text.quoted p.message)]

end ListenProblem

/-- Whether two addresses cannot be listened at together. -/
def SocketAddress.collides (a b : SocketAddress) : Bool :=
  a.port = b.port && (a.ip = b.ip || a.ip.isWildcard || b.ip.isWildcard)

/-- What a machine lets its programs listen at. -/
structure Machine where
  /-- Whether the machine has an address. -/
  owns : IpAddress → Bool
  /-- The addresses at which something listens. -/
  taken : List SocketAddress

namespace Machine

/-- A machine without a link to others. -/
def secluded (taken : List SocketAddress) : Machine := ⟨IpAddress.isLocal, taken⟩

/-- The machine once something listens at one more address. -/
def listen (m : Machine) (a : SocketAddress) : Except ListenProblem Machine :=
  if !m.owns a.ip then .error .notLocal
  else if m.taken.any a.collides then .error .inUse
  else .ok { m with taken := a :: m.taken }

end Machine

/-- The address of a machine that goes by a name or by a number. -/
def machine? (name : List Char) : Option IpAddress :=
  if String.ofList name = "localhost" then some .loopback
  else (Url.Ipv4.ofText? name).map IpAddress.v4 <|> (Url.Ipv6.ofText? name).map IpAddress.v6

/-- The number of a port, maybe with a sign. -/
def signedPort? : List Char → Option Nat
  | '+' :: digits => SocketAddress.port? digits
  | digits => SocketAddress.port? digits

/-- The address that a text names: a socket address, or a machine and a port. -/
def resolve (text : String) : Except ListenProblem SocketAddress :=
  match SocketAddress.ofText? text with
  | some a => .ok a
  | none =>
    let chars := text.toList
    let digits := (chars.reverse.takeWhile (· != ':')).reverse
    if digits.length = chars.length then .error .malformedAddress
    else
      match signedPort? digits with
      | none => .error .malformedPort
      | some port =>
        match machine? (chars.take (chars.length - digits.length - 1)) with
        | some ip => .ok ⟨ip, port⟩
        | none => .error .unknownHost

namespace Machine

/-- Listens at the address that a text names. -/
def listenAt (m : Machine) (text : String) : Except ListenProblem (SocketAddress × Machine) :=
  match resolve text with
  | .error problem => .error problem
  | .ok a => (m.listen a).map fun m => (a, m)

end Machine

end Net

end Failover
