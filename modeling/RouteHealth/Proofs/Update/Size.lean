import RouteHealth.Proofs.RouteSet
import RouteHealth.Proofs.Update
import RouteHealth.Update.Batch

/-!
# How long UPDATE bodies are

The length of a body is a sum over the numbers of its routes by family and flag
(`Policy.bodyLength_eq`), so a part of some routes never has a longer body than all of them
(`Policy.bodyLength_mono`).  The attributes of one route are those that all routes share and at most
one of its own (`Policy.attributesLength_singleton_eq`).  A body that is short enough to be sent has
nothing in it that is too long for its length field, so whether routes fit a message is a matter of
this length alone (`Policy.fitting?_render`, `Policy.sendable_iff`).
-/

namespace RouteHealth

open Attribute (Value tlv wireLength)

theorem NextHop6.wireLength_le (hop : NextHop6) : hop.wireLength ≤ 32 := by
  cases hop <;> exact Nat.le_of_ble_eq_true rfl

namespace Attribute

theorem wireLength_mono {m n : Nat} (h : m ≤ n) : wireLength m ≤ wireLength n := by
  unfold wireLength
  split <;> split <;> omega

theorem lt_wireLength (n : Nat) : n < wireLength n := by
  unfold wireLength
  split <;> omega

theorem length_octets_nextHop (a : IPv4) : (Value.nextHop a).octets.length = 4 := a.length_octets

theorem length_octets_multiExitDiscriminator (med : UInt32) :
    (Value.multiExitDiscriminator med).octets.length = 4 := Bytes.length_ofWord32 med

theorem length_octets_localPreference (pref : UInt32) :
    (Value.localPreference pref).octets.length = 4 := Bytes.length_ofWord32 pref

theorem length_octets_communities (cs : List Community) :
    (Value.communities cs).octets.length = 4 * cs.length := length_flatMap_communities cs

theorem length_octets_mpReachable (hop : NextHop6) {routes : List Address}
    (h : ∀ a ∈ routes, a.family = .ipv6) :
    (Value.mpReachable hop routes).octets.length = 5 + hop.wireLength + 17 * routes.length := by
  have hhop := hop.length_octets
  have hroutes : (routes.flatMap Nlri.record).length = 17 * routes.length :=
    Nlri.length_flatMap_record h
  show (_ :: _ :: _ :: UInt8.ofNat hop.octets.length ::
    (hop.octets ++ 0 :: routes.flatMap Nlri.record)).length = _
  simp only [List.length_cons, List.length_append]
  omega

theorem length_octets_mpUnreachable {routes : List Address} (h : ∀ a ∈ routes, a.family = .ipv6) :
    (Value.mpUnreachable routes).octets.length = 3 + 17 * routes.length := by
  have hroutes : (routes.flatMap Nlri.record).length = 17 * routes.length :=
    Nlri.length_flatMap_record h
  show (_ :: _ :: _ :: routes.flatMap Nlri.record).length = _
  simp only [List.length_cons]
  omega

end Attribute

/-! ## any content -/

namespace Content

theorem length_octets (c : Content) :
    c.octets.length = 4 + c.withdrawnOctets.length + c.attributeOctets.length
      + c.advertisedOctets.length := by
  simp only [octets, List.length_append, Bytes.length_ofNat]
  omega

theorem length_attributeOctets (c : Content) :
    c.attributeOctets.length = (c.attributes.map fun v => wireLength v.octets.length).sum := by
  rw [attributeOctets, Attribute.length_flatMap_tlv, List.map_map]
  rfl

theorem length_octets_le_attributeOctets {c : Content} {v : Value} (hv : v ∈ c.attributes) :
    v.octets.length ≤ c.attributeOctets.length := by
  have hle := List.le_sum_of_mem (List.mem_map_of_mem (f := fun v => wireLength v.octets.length) hv)
  have hlt := Attribute.lt_wireLength v.octets.length
  rw [length_attributeOctets]
  omega

/-- nothing in a short body is too long for its length field -/
theorem obstacle?_eq_none_of_length {c : Content} (h : c.octets.length ≤ 65535) :
    c.obstacle? = none := by
  rw [length_octets] at h
  have hvalues : ∀ v ∈ c.attributes, v.octets.length ≤ 65535 := by
    intro v hv
    have hle := length_octets_le_attributeOctets hv
    omega
  exact (obstacle?_eq_none_iff c).mpr ⟨hvalues, by omega, by omega⟩

end Content

/-! ## what a policy says -/

namespace Policy

variable {p : Policy} {r s : RouteSet}

theorem length_octets_ownPath (p : Policy) :
    (Value.asPath p.ownPath).octets.length = if p.isExternal then 4 else 0 := by
  rw [octets_ownPath]
  cases p.isExternal <;> rfl

/-- the length of the attributes that announce so many IPv6 routes -/
def announcementLength (p : Policy) (reachable unreachable : Nat) : Nat :=
  (if p.isExternal then 18 else 21)
    + (if p.communities = [] then 0 else wireLength (4 * p.communities.length))
    + (if p.med = 0 then 0 else 7)
    + (if reachable = 0 then 0 else wireLength (5 + p.nextHop6.wireLength + 17 * reachable))
    + (if unreachable = 0 then 0 else wireLength (3 + 17 * unreachable))

theorem sum_wireLength_announcement (p : Policy) {reachable unreachable : List Address}
    (hreachable : ∀ a ∈ reachable, a.family = .ipv6)
    (hunreachable : ∀ a ∈ unreachable, a.family = .ipv6) :
    ((p.announcement reachable unreachable).map fun v => wireLength v.octets.length).sum
      = p.announcementLength reachable.length unreachable.length := by
  have hoptional (c : Prop) [Decidable c] (v : Value) :
      ((if c then [] else [v]).map fun v : Value => wireLength v.octets.length).sum
        = if c then 0 else wireLength v.octets.length := by
    split <;> simp
  have horigin : (Value.origin .igp).octets.length = 1 := rfl
  rw [announcement_eq, announcementLength]
  simp only [List.map_append, List.sum_append, hoptional, List.length_eq_zero_iff, List.map_cons,
    List.map_nil, List.sum_cons, List.sum_nil, horigin, length_octets_ownPath,
    Attribute.length_octets_nextHop, Attribute.length_octets_localPreference,
    Attribute.length_octets_communities, Attribute.length_octets_multiExitDiscriminator,
    Attribute.length_octets_mpReachable _ hreachable,
    Attribute.length_octets_mpUnreachable hunreachable]
  cases p.isExternal <;> rfl

def attributesLength (p : Policy) (r : RouteSet) : Nat :=
  if needsAttributes r then
    p.announcementLength (Nlri.ofFamily .ipv6 r.advertised).length
      (Nlri.ofFamily .ipv6 r.withdrawn).length
  else 0

theorem length_attributeOctets_content (p : Policy) (r : RouteSet) :
    (p.content r).attributeOctets.length = p.attributesLength r := by
  rw [Content.length_attributeOctets, content, attributesLength]
  split
  · exact sum_wireLength_announcement p Nlri.family_of_mem_ofFamily Nlri.family_of_mem_ofFamily
  · rfl

theorem length_withdrawnOctets_content (p : Policy) (r : RouteSet) :
    (p.content r).withdrawnOctets.length = 5 * (Nlri.ofFamily .ipv4 r.withdrawn).length :=
  Nlri.length_stream .ipv4 r.withdrawn

theorem length_advertisedOctets_content (p : Policy) (r : RouteSet) :
    (p.content r).advertisedOctets.length = 5 * (Nlri.ofFamily .ipv4 r.advertised).length :=
  Nlri.length_stream .ipv4 r.advertised

def bodyLength (p : Policy) (r : RouteSet) : Nat := (p.content r).octets.length

theorem bodyLength_eq (p : Policy) (r : RouteSet) :
    p.bodyLength r = 4 + 5 * (Nlri.ofFamily .ipv4 r.withdrawn).length + p.attributesLength r
      + 5 * (Nlri.ofFamily .ipv4 r.advertised).length := by
  rw [bodyLength, Content.length_octets, length_withdrawnOctets_content,
    length_attributeOctets_content, length_advertisedOctets_content]

/-! ## parts of routes -/

theorem announcementLength_mono (p : Policy) {m m' n n' : Nat} (hm : m ≤ m') (hn : n ≤ n') :
    p.announcementLength m n ≤ p.announcementLength m' n' := by
  have hreachable := Attribute.wireLength_mono
    (show 5 + p.nextHop6.wireLength + 17 * m ≤ 5 + p.nextHop6.wireLength + 17 * m' by omega)
  have hunreachable := Attribute.wireLength_mono (show 3 + 17 * n ≤ 3 + 17 * n' by omega)
  unfold announcementLength
  refine Nat.add_le_add (Nat.add_le_add_left ?_ _) ?_
  · split <;> split <;> omega
  · split <;> split <;> omega

theorem needsAttributes_mono (h : r.entries.Sublist s.entries) (hr : needsAttributes r) :
    needsAttributes s := by
  rintro ⟨hadvertised, hwithdrawn⟩
  have hsub := RouteSet.advertised_sublist h
  have hsub' : (Nlri.ofFamily .ipv6 r.withdrawn).Sublist (Nlri.ofFamily .ipv6 s.withdrawn) :=
    (RouteSet.withdrawn_sublist h).filter _
  rw [hadvertised] at hsub
  rw [hwithdrawn] at hsub'
  exact hr ⟨List.sublist_nil.mp hsub, List.sublist_nil.mp hsub'⟩

theorem attributesLength_mono (p : Policy) (h : r.entries.Sublist s.entries) :
    p.attributesLength r ≤ p.attributesLength s := by
  unfold attributesLength
  by_cases hr : needsAttributes r
  · rw [if_pos hr, if_pos (needsAttributes_mono h hr)]
    exact announcementLength_mono p ((RouteSet.advertised_sublist h).filter _).length_le
      ((RouteSet.withdrawn_sublist h).filter _).length_le
  · rw [if_neg hr]
    exact Nat.zero_le _

/-- a part of some routes has no longer a body than all of them -/
theorem bodyLength_mono (p : Policy) (h : r.entries.Sublist s.entries) :
    p.bodyLength r ≤ p.bodyLength s := by
  have hwithdrawn := ((RouteSet.withdrawn_sublist h).filter (·.family = .ipv4)).length_le
  have hadvertised := ((RouteSet.advertised_sublist h).filter (·.family = .ipv4)).length_le
  have hattributes := attributesLength_mono p h
  rw [bodyLength_eq, bodyLength_eq]
  unfold Nlri.ofFamily
  omega

/-! ## one route -/

/-- a withdrawn IPv4 route travels without attributes, and every other route with them -/
theorem attributesLength_singleton (p : Policy) (e : Route) :
    p.attributesLength (.singleton e) = match e with
      | (.v4 _, false) => 0
      | (.v4 _, true) => p.announcementLength 0 0
      | (.v6 _, true) => p.announcementLength 1 0
      | (.v6 _, false) => p.announcementLength 0 1 := by
  obtain ⟨a | a, flag⟩ := e <;> cases flag <;> rfl

theorem bodyLength_singleton (p : Policy) (e : Route) :
    p.bodyLength (.singleton e)
      = p.attributesLength (.singleton e) + if e.1.family = .ipv4 then 9 else 4 := by
  rw [bodyLength_eq, Nat.add_right_comm, Nat.add_comm]
  obtain ⟨a | a, flag⟩ := e <;> cases flag <;> rfl

/-- a route that is advertised or has an IPv6 address is announced with attributes -/
def isAnnounced (e : Route) : Bool := e.2 || e.1.family = .ipv6

/-- the octets of the one attribute that only an IPv6 route has -/
def ownLength (p : Policy) (e : Route) : Nat :=
  if e.1.family = .ipv4 then 0 else if e.2 then p.nextHop6.wireLength + 25 else 23

theorem ownLength_le (p : Policy) (e : Route) : p.ownLength e ≤ 57 := by
  have hhop := p.nextHop6.wireLength_le
  unfold ownLength
  split
  · omega
  · split <;> omega

/-- an announced route has the attributes that all routes share and its own, and any other route has
none -/
theorem attributesLength_singleton_eq (p : Policy) (e : Route) :
    p.attributesLength (.singleton e)
      = if isAnnounced e then p.announcementLength 0 0 + p.ownLength e else 0 := by
  have hreach : Attribute.wireLength (5 + p.nextHop6.wireLength + 17 * 1)
      = p.nextHop6.wireLength + 25 := by
    cases p.nextHop6 <;> rfl
  rw [attributesLength_singleton]
  obtain ⟨a | a, flag⟩ := e <;> cases flag
  · rfl
  · rfl
  · rfl
  · show p.announcementLength 1 0 = p.announcementLength 0 0 + (p.nextHop6.wireLength + 25)
    simp only [← hreach, announcementLength, Nat.one_ne_zero, if_false, if_true]
    omega

theorem bodyLength_singleton_of_not_isAnnounced {e : Route} (h : isAnnounced e = false) :
    p.bodyLength (.singleton e) = 9 := by
  obtain ⟨a | a, flag⟩ := e <;> cases flag
  · rw [bodyLength_singleton, attributesLength_singleton_eq]
    rfl
  all_goals cases h

theorem announcementLength_le (p : Policy) :
    p.announcementLength 0 0 ≤ 32 + 4 * p.communities.length := by
  have hbase : (if p.isExternal then 18 else 21) ≤ 21 := by split <;> omega
  have hmed : (if p.med = 0 then 0 else 7) ≤ 7 := by split <;> omega
  have htags : (if p.communities = [] then 0 else Attribute.wireLength (4 * p.communities.length))
      ≤ 4 + 4 * p.communities.length := by
    unfold Attribute.wireLength
    split
    · omega
    · split <;> omega
  rw [announcementLength, if_pos rfl, if_pos rfl]
  omega

theorem announcementLength_of_many (h : 63 < p.communities.length) :
    p.announcementLength 0 0 = (if p.isExternal then 22 else 25) + 4 * p.communities.length
      + (if p.med = 0 then 0 else 7) := by
  have hne : p.communities ≠ [] := by
    intro hnil
    rw [hnil] at h
    cases h
  have hlong : ¬4 * p.communities.length ≤ 255 := by omega
  rw [announcementLength, if_neg hne, Attribute.wireLength, if_neg hlong, if_pos rfl, if_pos rfl]
  cases p.isExternal
  · show 21 + _ + _ + 0 + 0 = 25 + _ + _
    omega
  · show 18 + _ + _ + 0 + 0 = 22 + _ + _
    omega

def crowdedPolicy (tags : Nat) : Policy := { communities := List.replicate tags .noExport }

theorem announcementLength_crowdedPolicy {tags : Nat} (h : 63 < tags) :
    (crowdedPolicy tags).announcementLength 0 0 = 25 + 4 * tags := by
  have htags : (crowdedPolicy tags).communities.length = tags := List.length_replicate
  rw [announcementLength_of_many (by omega), htags]
  rfl

/-! ## bodies that can be sent -/

theorem render_of_bodyLength_le (h : p.bodyLength r ≤ 65535) :
    p.render r = .ok (p.content r).octets := by
  rw [render_eq_encode]
  exact Content.encode_of_none (Content.obstacle?_eq_none_of_length h)

theorem render_of_bodyLength_lt (h : p.bodyLength r < bodyBound) :
    p.render r = .ok (p.content r).octets :=
  render_of_bodyLength_le (Nat.le_of_lt (Nat.lt_trans h (by decide)))

/-- routes have a body that can be sent exactly if their body is short -/
theorem fitting?_render (p : Policy) (r : RouteSet) :
    fitting? (p.render r)
      = if p.bodyLength r < bodyBound then some (p.content r).octets else none := by
  by_cases h : p.bodyLength r < bodyBound
  · rw [render_of_bodyLength_lt h]
    rfl
  · rw [if_neg h, render_eq_encode, Content.encode]
    cases (p.content r).obstacle? with
    | some e => rfl
    | none => exact if_neg h

/-- whether some routes have a body that can be sent -/
def Sendable (p : Policy) (r : RouteSet) : Prop :=
  ∃ body, p.render r = .ok body ∧ body.length < 4000

theorem sendable_iff (p : Policy) (r : RouteSet) : p.Sendable r ↔ p.bodyLength r < bodyBound := by
  constructor
  · rintro ⟨body, hbody, hlt⟩
    by_contra hlong
    have hfit := p.fitting?_render r
    rw [if_neg hlong, hbody] at hfit
    exact absurd ((if_pos hlt).symm.trans hfit) nofun
  · intro h
    exact ⟨_, render_of_bodyLength_lt h, h⟩

instance (p : Policy) : DecidablePred p.Sendable :=
  fun r => decidable_of_iff _ (p.sendable_iff r).symm

end Policy

end RouteHealth
