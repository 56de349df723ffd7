import RouteHealth.Attribute.Encode
import RouteHealth.Nlri
import RouteHealth.Policy
import RouteHealth.RouteSet

/-!
# UPDATE bodies

The body of an UPDATE message is the withdrawn IPv4 routes, the path attributes and the advertised
IPv4 routes, the first two each after a two-octet length.  IPv6 routes travel inside two of the
attributes.
-/

namespace RouteHealth.Policy

/-- the path attributes of an announcement with the given streams of IPv6 routes -/
def attributes (p : Policy) (reachable unreachable : Bytes) : Except RenderError Bytes := do
  let communities ←
    if p.communities = [] then pure [] else Attribute.communities p.communities
  let mpReachable ←
    if reachable = [] then pure [] else Attribute.mpReachable p.nextHop6 reachable
  let mpUnreachable ←
    if unreachable = [] then pure [] else Attribute.mpUnreachable unreachable
  return Attribute.origin .igp
    ++ Attribute.asPath p.asn p.isExternal
    ++ Attribute.nextHop p.nextHop
    ++ (if p.isExternal then [] else Attribute.localPreference p.effectiveLocalPref)
    ++ communities
    ++ (if p.med = 0 then [] else Attribute.multiExitDiscriminator p.med)
    ++ mpReachable
    ++ mpUnreachable

def lengthPrefixed (part : Section) (bs : Bytes) : Except RenderError Bytes :=
  if 65535 < bs.length then .error (.sectionTooLarge part bs.length)
  else .ok (Bytes.ofNat 2 bs.length ++ bs)

/-- the UPDATE body of all the routes, however long; without advertised routes and withdrawn IPv6
routes it has no attributes -/
def render (p : Policy) (routes : RouteSet) : Except RenderError Bytes := do
  let advertised4 := Nlri.stream .ipv4 routes.advertised
  let advertised6 := Nlri.stream .ipv6 routes.advertised
  let withdrawn4 := Nlri.stream .ipv4 routes.withdrawn
  let withdrawn6 := Nlri.stream .ipv6 routes.withdrawn
  let attributes ←
    if advertised4 = [] ∧ advertised6 = [] ∧ withdrawn6 = [] then pure []
    else p.attributes advertised6 withdrawn6
  let withdrawn ← lengthPrefixed .withdrawnRoutes withdrawn4
  let attributes ← lengthPrefixed .pathAttributes attributes
  return withdrawn ++ attributes ++ advertised4

end RouteHealth.Policy
