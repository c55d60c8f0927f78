import Failover.Url.Host

/-!
# Socket addresses

The address of a machine together with a port. Addresses are read strictly: four decimal numbers
without leading zeros, or an IPv6 address between brackets.
-/

namespace Failover

namespace Net

/-- The address of a machine. -/
inductive IpAddress where
  | v4 (address : Nat)
  | v6 (pieces : List Nat)
deriving DecidableEq, Inhabited

namespace IpAddress

/-- The address of this machine. -/
def loopback : IpAddress := v4 0x7f000001

/-- Whether the address stands for all addresses of a machine. -/
def isWildcard : IpAddress → Bool
  | v4 address => address = 0
  | v6 pieces => pieces.all (· == 0)

/-- Whether this machine has the address. -/
def isLocal (a : IpAddress) : Bool :=
  a.isWildcard ||
    match a with
    | v4 address => address / 0x1000000 = 127
    | v6 pieces => pieces = [0, 0, 0, 0, 0, 0, 0, 1]

/-- The address that a host of a URL stands for. The only name that is known is `localhost`. -/
def ofHost? : Url.Host → Option IpAddress
  | .ipv4 address => some (v4 address)
  | .ipv6 pieces => some (v6 pieces)
  | .name text => if String.ofList text = "localhost" then some loopback else none

/-- An IPv6 address. One that stands for an IPv4 address ends like that. -/
def v6Text (pieces : List Nat) : String :=
  match pieces with
  | [0, 0, 0, 0, 0, 0xffff, high, low] => "::ffff:" ++ Url.Ipv4.toText (high * 65536 + low)
  | pieces => Url.Ipv6.toText pieces

end IpAddress

/-- An address with a port. -/
structure SocketAddress where
  ip : IpAddress
  port : Nat
deriving DecidableEq, Inhabited

namespace SocketAddress

/-- The address as it is shown. -/
def toText (a : SocketAddress) : String :=
  match a.ip with
  | .v4 address => Url.Ipv4.toText address ++ ":" ++ toString a.port
  | .v6 pieces => "[" ++ IpAddress.v6Text pieces ++ "]:" ++ toString a.port

/-- Whether connections to an address arrive at one that is listened to. -/
def reaches (wanted listening : SocketAddress) : Bool :=
  wanted.port = listening.port &&
    (wanted.ip = listening.ip || wanted.ip = .v4 0 || listening.ip.isWildcard)

/-- The number of a port. -/
def port? (digits : List Char) : Option Nat :=
  if digits.isEmpty then none else (Url.numberIn? 10 digits).filter (· ≤ 65535)

/-- The four decimal numbers of an address. -/
def v4? (text : List Char) : Option IpAddress :=
  match Url.Ipv6.tail? text with
  | some [low, high] => some (.v4 (high * 65536 + low))
  | _ => none

/-- The address that a text stands for. -/
def ofText? (text : String) : Option SocketAddress :=
  match text.toList with
  | '[' :: rest =>
    let inner := rest.takeWhile (· != ']')
    match rest.drop inner.length with
    | ']' :: ':' :: digits =>
      match Url.Ipv6.ofText? inner, port? digits with
      | some pieces, some port => some ⟨.v6 pieces, port⟩
      | _, _ => none
    | _ => none
  | chars =>
    let inner := chars.takeWhile (· != ':')
    match chars.drop inner.length with
    | ':' :: digits =>
      match v4? inner, port? digits with
      | some ip, some port => some ⟨ip, port⟩
      | _, _ => none
    | _ => none

end SocketAddress

end Net

end Failover
