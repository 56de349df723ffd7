import RouteHealth.Community
import RouteHealth.NextHop
import RouteHealth.RenderError

/-!
# Writing path attributes

`Attribute.encode` writes any attribute.  The attributes with a value of known length cannot fail
and are written directly.
-/

namespace RouteHealth.Attribute

/-- an attribute with its value; a value of more than 65535 octets has no length field -/
def encode (kind : Kind) (value : Bytes) : Except RenderError Bytes :=
  if 65535 < value.length then .error (.attributeTooLarge kind value.length)
  else .ok (header (kind.defaultFlags.forLength value.length) kind (UInt16.ofNat value.length) ++ value)

def origin (o : Origin) : Bytes :=
  header .wellKnown .origin 1 ++ [UInt8.ofNat (Registry.code o)]

def asSequence : UInt8 := 2

/-- AS_PATH of a route that starts here: the own AS number for an external peer, and nothing for an
internal one -/
def asPath (asn : UInt16) (external : Bool) : Bytes :=
  if external then header .wellKnown .asPath 4 ++ asSequence :: 1 :: Bytes.ofWord16 asn
  else header .wellKnown .asPath 0

def nextHop (a : IPv4) : Bytes := header .wellKnown .nextHop 4 ++ a.octets

def multiExitDiscriminator (med : UInt32) : Bytes :=
  header .optionalLocal .multiExitDiscriminator 4 ++ Bytes.ofWord32 med

def localPreference (pref : UInt32) : Bytes :=
  header .wellKnown .localPreference 4 ++ Bytes.ofWord32 pref

/-- COMMUNITIES, in the order given -/
def communities (cs : List Community) : Except RenderError Bytes :=
  encode .communities (cs.flatMap Community.octets)

def ipv6Unicast : Bytes :=
  Bytes.ofNat 2 (Registry.code Afi.ipv6) ++ Bytes.ofNat 1 (Registry.code Safi.unicast)

/-- MP_REACHABLE_NLRI for IPv6 unicast; a reserved zero octet follows the next hop -/
def mpReachable (hop : NextHop6) (nlri : Bytes) : Except RenderError Bytes :=
  encode .mpReachable
    (ipv6Unicast ++ UInt8.ofNat hop.octets.length :: hop.octets ++ 0 :: nlri)

def mpUnreachable (nlri : Bytes) : Except RenderError Bytes :=
  encode .mpUnreachable (ipv6Unicast ++ nlri)

end RouteHealth.Attribute
