import RouteHealth.Registry

/-!
# Address families

Routes belong to an address family, and a session negotiates pairs of a family and a subsequent
family.  Only unicast routes are announced; multicast is known so that a peer's offer can be
described.
-/

namespace RouteHealth

/-- an address family -/
inductive Afi where
  | ipv4
  | ipv6
  deriving DecidableEq

/-- a subsequent address family -/
inductive Safi where
  | unicast
  | multicast
  deriving DecidableEq

instance : ClosedRegistry Afi where
  space := .afi
  members := [.ipv4, .ipv6]
  code
    | .ipv4 => 1
    | .ipv6 => 2
  name
    | .ipv4 => "Ipv4"
    | .ipv6 => "Ipv6"

instance : ClosedRegistry Safi where
  space := .safi
  members := [.unicast, .multicast]
  code
    | .unicast => 1
    | .multicast => 2
  name
    | .unicast => "Unicast"
    | .multicast => "Multicast"

namespace Afi

def octetCount : Afi → Nat
  | ipv4 => 4
  | ipv6 => 16

/-- the length in bits of the longest, that is host, route of the family -/
def hostLength (family : Afi) : UInt8 := UInt8.ofNat (8 * family.octetCount)

end Afi

end RouteHealth
