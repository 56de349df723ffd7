import RouteHealth.Community
import RouteHealth.NextHop

/-!
# Announcement policy

A policy is what a speaker announces about its own routes on one peering.  It is a fixed template:
overrides for a batch of routes give a new policy and leave the template as it is.
-/

namespace RouteHealth

/-- what a batch of routes replaces in a policy -/
structure Overrides where
  communities : List Community := []
  med : UInt32 := 0
  /-- the local preference, zero for the default one -/
  localPref : UInt32 := 0
  deriving DecidableEq

/-- the announcement policy of one peering -/
structure Policy where
  nextHop : IPv4 := .unspecified
  nextHop6 : NextHop6 := .global .unspecified
  asn : UInt16 := 0
  /-- the multi-exit discriminator, zero for none -/
  med : UInt32 := 0
  communities : List Community := []
  /-- the local preference, zero for the default one -/
  localPref : UInt32 := 0
  multiprotocol : Bool := false
  peerAsn : UInt16 := 0
  deriving DecidableEq

namespace Policy

/-- the local preference told to internal peers when none is set -/
def defaultLocalPref : UInt32 := 100

/-- a policy without preferences for a peer in the speaker's own AS -/
def ofSpeaker (asn : UInt16) (nextHop : IPv4) : Policy :=
  { asn, nextHop, peerAsn := asn }

/-- whether the peer is in another AS -/
def isExternal (p : Policy) : Bool := p.peerAsn != p.asn

/-- the local preference that internal peers are told -/
def effectiveLocalPref (p : Policy) : UInt32 :=
  if p.localPref = 0 then defaultLocalPref else p.localPref

/-- the policy for a batch of routes to one peer; an empty list of communities clears the template's -/
def override (p : Policy) (o : Overrides) (peerAsn : UInt16) : Policy :=
  { p with communities := o.communities, med := o.med, localPref := o.localPref, peerAsn }

end Policy

end RouteHealth
