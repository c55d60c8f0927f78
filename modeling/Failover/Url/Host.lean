import Failover.Url.Address
import Failover.Url.Domain

/-!
# Hosts

The host of a URL: a domain name or an address. Only special schemes know about domains and IPv4
addresses; for the others the host is any text without the characters that separate parts.
-/

namespace Failover

namespace Url

/-- Why a text is no URL. -/
inductive Problem where
  | emptyHost
  | invalidDomain
  | invalidPort
  | invalidIpv4
  | invalidIpv6
  | invalidDomainCharacter
  | missingScheme
deriving DecidableEq, Inhabited

/-- The problem in words. -/
def Problem.message : Problem → String
  | emptyHost => "empty host"
  | invalidDomain => "invalid international domain name"
  | invalidPort => "invalid port number"
  | invalidIpv4 => "invalid IPv4 address"
  | invalidIpv6 => "invalid IPv6 address"
  | invalidDomainCharacter => "invalid domain character"
  | missingScheme => "relative URL without a base"

/-- A host. -/
inductive Host where
  | name (text : List Char)
  | ipv4 (address : Nat)
  | ipv6 (pieces : List Nat)
deriving DecidableEq, Inhabited

namespace Host

/-- The host as it stands in a URL. -/
def toText : Host → String
  | name text => String.ofList text
  | ipv4 address => Ipv4.toText address
  | ipv6 pieces => "[" ++ Ipv6.toText pieces ++ "]"

/-- An address between brackets. -/
def bracketed (text : List Char) : Except Problem Host :=
  if text.getLast? = some ']' ∧ 2 ≤ text.length then
    match Ipv6.ofText? ((text.drop 1).dropLast) with
    | some pieces => .ok (ipv6 pieces)
    | none => .error .invalidIpv6
  else .error .invalidIpv6

/-- The host of a special URL. -/
def ofSpecialText (text : List Char) : Except Problem Host :=
  if text.head? = some '[' then bracketed text
  else
    match ofOctets? (percentDecode (octets text)) with
    | none => .error .invalidDomain
    | some decoded =>
      match Domain.toAscii? decoded with
      | none => .error .invalidDomain
      | some [] => .error .emptyHost
      | some domain =>
        if Ipv4.looksLike domain then
          match Ipv4.ofText? domain with
          | some address => .ok (ipv4 address)
          | none => .error .invalidIpv4
        else .ok (name domain)

/-- The characters that no host may hold. -/
def isForbidden (c : Char) : Bool :=
  c.toNat = 0 || ['\t', '\n', '\r', ' ', '#', '/', ':', '<', '>', '?', '@', '[', '\\', ']', '^',
    '|'].contains c

/-- The host of a URL that is not special. -/
def ofPlainText (text : List Char) : Except Problem Host :=
  if text.head? = some '[' then bracketed text
  else if text.any isForbidden then .error .invalidDomainCharacter
  else .ok (name (percentEncode controlSet text))

end Host

end Url

end Failover
