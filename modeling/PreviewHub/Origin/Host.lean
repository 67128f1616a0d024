import PreviewHub.Origin.Domain
import PreviewHub.Origin.Ipv4
import PreviewHub.Origin.Ipv6

/-! Hosts: a name, or an address by its numbers. -/

namespace PreviewHub

inductive OriginFault where
  | emptyHost
  | badDomain
  | badPort
  | badIpv4
  | badIpv6
  | badCharacter
  | relative
  | noOrigin
  deriving DecidableEq, Repr

def OriginFault.text : OriginFault → String
  | .emptyHost => "empty host"
  | .badDomain => "invalid international domain name"
  | .badPort => "invalid port number"
  | .badIpv4 => "invalid IPv4 address"
  | .badIpv6 => "invalid IPv6 address"
  | .badCharacter => "invalid domain character"
  | .relative => "relative URL without a base"
  | .noOrigin => "opaque origin"

inductive Host where
  | named (text : List Char)
  | ipv4 (address : Nat)
  | ipv6 (pieces : List Nat)
  deriving DecidableEq, Repr

namespace Host

def render : Host → List Char
  | .named text => text
  | .ipv4 address => Ipv4.render address
  | .ipv6 pieces => '[' :: (Ipv6.render pieces ++ [']'])

def parseBracketed (inner : List Char) : Except OriginFault Host :=
  if inner.getLast? = some ']' then
    match Ipv6.parse? inner.dropLast with
    | some pieces => .ok (.ipv6 pieces)
    | none => .error .badIpv6
  else .error .badIpv6

def ofAscii (name : List Char) : Except OriginFault Host :=
  if name.isEmpty then .error .emptyHost
  else if Ipv4.isCalledFor name then
    match Ipv4.parse? name with
    | some address => .ok (.ipv4 address)
    | none => .error .badIpv4
  else .ok (.named name)

def parse : List Char → Except OriginFault Host
  | '[' :: inner => parseBracketed inner
  | cs =>
    match Domain.toAscii cs with
    | some ascii => ofAscii ascii
    | none => .error .badDomain

def isForbidden (c : Char) : Bool :=
  ['\x00', '\t', '\n', '\r', ' ', '#', '/', ':', '<', '>', '?', '@', '[', '\\', ']', '^',
    '|'].contains c

/-- The host of any other scheme is taken as it stands. -/
def parsePlain : List Char → Except OriginFault Host
  | '[' :: inner => parseBracketed inner
  | cs => if cs.any isForbidden then .error .badCharacter else .ok (.named cs)

end Host

end PreviewHub
