import RouteHealth.Address

/-!
# IPv6 next hops

An announcement of IPv6 routes carries either one global address or a global address followed by the
link-local address of the same interface.
-/

namespace RouteHealth

/-- the next hop of IPv6 routes -/
inductive NextHop6 where
  | global (address : IPv6)
  | globalAndLinkLocal (address linkLocal : IPv6)
  deriving DecidableEq

namespace NextHop6

def octets : NextHop6 → Bytes
  | global a => a.octets
  | globalAndLinkLocal a l => a.octets ++ l.octets

def wireLength : NextHop6 → Nat
  | global _ => 16
  | globalAndLinkLocal _ _ => 32

theorem length_octets (h : NextHop6) : h.octets.length = h.wireLength := by
  cases h <;> simp [octets, wireLength, IPv6.length_octets]

end NextHop6

end RouteHealth
