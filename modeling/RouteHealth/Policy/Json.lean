import RouteHealth.Address.Text
import RouteHealth.Json.Read
import RouteHealth.Json.Write
import RouteHealth.Policy
import RouteHealth.RouteSet

/-!
# Policies and routes as JSON

A record is an object with its field names as keys, or an array of its first fields in order; fields
that are not given have their default.  A set of routes is an object from address to flag in which
the last of several flags for one address counts.
-/

namespace RouteHealth

namespace IPv4

def toJson (a : IPv4) : Json := .ofText a.text

def ofJson? (j : Json) : Option IPv4 := j.text?.bind ofText?

end IPv4

namespace IPv6

def toJson (a : IPv6) : Json := .ofText a.text

def ofJson? (j : Json) : Option IPv6 := j.text?.bind ofText?

end IPv6

namespace NextHop6

/-- a next hop as JSON: an object whose only key says which form it has -/
def toJson : NextHop6 → Json
  | global a => .ofMembers [("Global", a.toJson)]
  | globalAndLinkLocal a l => .ofMembers [("GlobalAndLinkLocal", .array [a.toJson, l.toJson])]

def ofJson? : Json → Option NextHop6
  | .object [(.text form, value)] =>
    if form = "Global" then (IPv6.ofJson? value).map global
    else if form = "GlobalAndLinkLocal" then
      match value with
      | .array [a, l] => do
        let a ← IPv6.ofJson? a
        let l ← IPv6.ofJson? l
        return globalAndLinkLocal a l
      | _ => none
    else none
  | _ => none

end NextHop6

namespace Community

def toJson (c : Community) : Json := .ofNat c.raw.toNat

def ofJson? (j : Json) : Option Community := (j.nat? 4294967295).map fun n => ⟨UInt32.ofNat n⟩

end Community

def Json.word16? (j : Json) : Option UInt16 := (j.nat? 65535).map UInt16.ofNat

def Json.word32? (j : Json) : Option UInt32 := (j.nat? 4294967295).map UInt32.ofNat

namespace Overrides

/-- the names of the fields, in order -/
def fieldNames : List String := ["communities", "med", "local_pref"]

/-- the fields with their names, in order -/
def members (o : Overrides) : List (String × Json) :=
  [("communities", .array (o.communities.map Community.toJson)),
    ("med", .ofNat o.med.toNat), ("local_pref", .ofNat o.localPref.toNat)]

def toJson (o : Overrides) : Json := .ofMembers o.members

def ofJson? (j : Json) : Option Overrides := do
  match ← j.fields? fieldNames with
  | [communities, med, localPref] =>
    let base : Overrides := {}
    let communities ← Json.field (Json.list? Community.ofJson?) base.communities communities
    let med ← Json.field Json.word32? base.med med
    let localPref ← Json.field Json.word32? base.localPref localPref
    return { communities, med, localPref }
  | _ => none

end Overrides

namespace Policy

/-- the names of the fields, in order -/
def fieldNames : List String :=
  ["next_hop", "next_hop6", "asn", "med", "communities", "local_pref", "multiprotocol", "peer_asn"]

/-- the fields with their names, in order -/
def members (p : Policy) : List (String × Json) :=
  [("next_hop", p.nextHop.toJson), ("next_hop6", p.nextHop6.toJson),
    ("asn", .ofNat p.asn.toNat), ("med", .ofNat p.med.toNat),
    ("communities", .array (p.communities.map Community.toJson)),
    ("local_pref", .ofNat p.localPref.toNat), ("multiprotocol", .bool p.multiprotocol),
    ("peer_asn", .ofNat p.peerAsn.toNat)]

def toJson (p : Policy) : Json := .ofMembers p.members

/-- the policy with the fields that a JSON value gives, and those of `base` for the others -/
def overlay? (base : Policy) (j : Json) : Option Policy := do
  match ← j.fields? fieldNames with
  | [nextHop, nextHop6, asn, med, communities, localPref, multiprotocol, peerAsn] =>
    let nextHop ← Json.field IPv4.ofJson? base.nextHop nextHop
    let nextHop6 ← Json.field NextHop6.ofJson? base.nextHop6 nextHop6
    let asn ← Json.field Json.word16? base.asn asn
    let med ← Json.field Json.word32? base.med med
    let communities ← Json.field (Json.list? Community.ofJson?) base.communities communities
    let localPref ← Json.field Json.word32? base.localPref localPref
    let multiprotocol ← Json.field Json.bool? base.multiprotocol multiprotocol
    let peerAsn ← Json.field Json.word16? base.peerAsn peerAsn
    return { nextHop, nextHop6, asn, med, communities, localPref, multiprotocol, peerAsn }
  | _ => none

def ofJson? (j : Json) : Option Policy := overlay? {} j

end Policy

namespace RouteSet

def route? : Literal × Json → Option Route
  | (.text key, .bool flag) => (Address.ofText? key).map fun a => (a, flag)
  | _ => none

def ofJson? : Json → Option RouteSet
  | .object members => (members.mapM route?).map ofList
  | _ => none

end RouteSet

end RouteHealth
