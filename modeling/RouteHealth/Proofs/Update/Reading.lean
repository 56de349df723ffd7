import RouteHealth.Proofs.RouteSet
import RouteHealth.Proofs.Update

/-!
# Reading UPDATE bodies back

The reader takes the body of a content apart into that content and nothing else
(`Content.ofBody?_octets`), for every content whose routes are in the place of their family.  What a
policy says of routes is such a content, so a rendered body says what it was rendered from
(`Policy.ofBody?_of_render`); `Policy.render_decodes` spells it out.
-/

namespace RouteHealth

open Attribute (Value)

/-! ## any content -/

namespace Content

/-- IPv4 routes outside the attributes, and values with a written form inside -/
structure WellFormed (c : Content) : Prop where
  withdrawn : ∀ a ∈ c.withdrawn, a.family = .ipv4
  attributes : ∀ v ∈ c.attributes, v.Writable
  advertised : ∀ a ∈ c.advertised, a.family = .ipv4

theorem counted?_append {bs : Bytes} (h : bs.length ≤ 65535) (rest : Bytes) :
    counted? (Bytes.ofNat 2 bs.length ++ bs ++ rest) = some (bs, rest) := by
  obtain ⟨a, b, hab⟩ := Bytes.exists_ofNat_two bs.length
  have hlen : Bytes.toNat [a, b] = bs.length := by rw [← hab, Bytes.toNat_ofNat_two h]
  rw [hab]
  show (if Bytes.toNat [a, b] ≤ (bs ++ rest).length then
    some ((bs ++ rest).take (Bytes.toNat [a, b]), (bs ++ rest).drop (Bytes.toNat [a, b])) else none) = _
  rw [hlen, List.take_left, List.drop_left, if_pos (by rw [List.length_append]; omega)]

theorem counted?_octets {c : Content} (h : c.obstacle? = none) :
    ∃ rest, counted? c.octets = some (c.withdrawnOctets, rest)
      ∧ counted? rest = some (c.attributeOctets, c.advertisedOctets) := by
  obtain ⟨-, hwithdrawn, hattributes⟩ := (obstacle?_eq_none_iff c).mp h
  refine ⟨Bytes.ofNat 2 c.attributeOctets.length ++ c.attributeOctets ++ c.advertisedOctets, ?_,
    counted?_append hattributes _⟩
  rw [octets, List.append_assoc]
  exact counted?_append hwithdrawn _

theorem readAll?_attributeOctets {c : Content} (h : c.obstacle? = none) :
    Attribute.readAll? c.attributeOctets
      = some ((c.attributes.map Value.written).map fun v => .ofValue v.1 v.2) := by
  have hvalues := ((obstacle?_eq_none_iff c).mp h).1
  exact Attribute.readAll?_flatMap_tlv (List.forall_mem_map.mpr hvalues)

theorem ofBody?_octets {c : Content} (hc : c.WellFormed) (h : c.obstacle? = none) :
    ofBody? c.octets = some c := by
  obtain ⟨rest, hbody, hrest⟩ := counted?_octets h
  have hwithdrawn : Nlri.read? .ipv4 c.withdrawnOctets = some c.withdrawn :=
    Nlri.read?_flatMap_record hc.withdrawn
  have hadvertised : Nlri.read? .ipv4 c.advertisedOctets = some c.advertised :=
    Nlri.read?_flatMap_record hc.advertised
  have hattributes := Attribute.mapM_ofEncoded? hc.attributes
  unfold ofBody?
  simp only [hbody, hrest, hwithdrawn, hadvertised, hattributes, readAll?_attributeOctets h,
    Option.bind_eq_bind, Option.bind_some]
  rfl

end Content

/-! ## what a policy says -/

namespace Policy

theorem attributes_content_eq_nil_iff (p : Policy) (r : RouteSet) :
    (p.content r).attributes = [] ↔ r.advertised = [] ∧ Nlri.ofFamily .ipv6 r.withdrawn = [] := by
  show (if needsAttributes r then _ else []) = [] ↔ _
  by_cases h : needsAttributes r
  · rw [if_pos h]
    exact ⟨fun hnil => by simp [announcement] at hnil, fun hnil => absurd hnil h⟩
  · rw [if_neg h]
    exact ⟨fun _ => not_not.mp h, fun _ => rfl⟩

/-- all the values that an announcement can have, in its order -/
def announceable (p : Policy) (reachable unreachable : List Address) : List Value :=
  [.origin .igp, .asPath p.ownPath, .nextHop p.nextHop, .localPreference p.effectiveLocalPref,
    .communities p.communities, .multiExitDiscriminator p.med, .mpReachable p.nextHop6 reachable,
    .mpUnreachable unreachable]

theorem announcement_sublist (p : Policy) (reachable unreachable : List Address) :
    (p.announcement reachable unreachable).Sublist (p.announceable reachable unreachable) := by
  have hoptional (c : Prop) [Decidable c] (v : Value) :
      (if c then [] else [v]).Sublist [v] := by
    split
    · exact List.nil_sublist _
    · exact List.Sublist.refl _
  rw [announcement_eq]
  exact (((((List.Sublist.refl _).append (hoptional _ _)).append (hoptional _ _)).append
    (hoptional _ _)).append (hoptional _ _)).append (hoptional _ _)

theorem nodup_kinds_announcement (p : Policy) (reachable unreachable : List Address) :
    ((p.announcement reachable unreachable).map Value.kind).Nodup :=
  ((announcement_sublist p reachable unreachable).map Value.kind).nodup
    (show ([.origin, .asPath, .nextHop, .localPreference, .communities, .multiExitDiscriminator,
      .mpReachable, .mpUnreachable] : List Attribute.Kind).Nodup by decide)

theorem writable_of_mem_announcement {p : Policy} {reachable unreachable : List Address}
    (hreachable : ∀ a ∈ reachable, a.family = .ipv6)
    (hunreachable : ∀ a ∈ unreachable, a.family = .ipv6) :
    ∀ v ∈ p.announcement reachable unreachable, v.Writable := by
  have hpath : (Value.asPath p.ownPath).Writable := by
    show ∀ s ∈ p.ownPath, s.2.length ≤ 255
    unfold ownPath
    cases p.isExternal <;> simp
  have hall : ∀ v ∈ p.announceable reachable unreachable, v.Writable := by
    simp only [announceable, List.forall_mem_cons]
    exact ⟨trivial, hpath, trivial, trivial, trivial, trivial, hreachable, hunreachable, nofun⟩
  intro v hv
  exact hall v ((announcement_sublist p reachable unreachable).subset hv)

theorem content_wellFormed (p : Policy) (r : RouteSet) : (p.content r).WellFormed where
  withdrawn := Nlri.family_of_mem_ofFamily
  advertised := Nlri.family_of_mem_ofFamily
  attributes := by
    intro v hv
    replace hv : v ∈ if needsAttributes r then _ else [] := hv
    split at hv
    · exact writable_of_mem_announcement Nlri.family_of_mem_ofFamily Nlri.family_of_mem_ofFamily v hv
    · cases hv

/-- a rendered body says what it was rendered from -/
theorem ofBody?_of_render {p : Policy} {r : RouteSet} {body : Bytes} (h : p.render r = .ok body) :
    Content.ofBody? body = some (p.content r) := by
  rw [render_eq_encode] at h
  obtain ⟨hnone, rfl⟩ := (Content.encode_eq_ok_iff _ _).mp h
  exact Content.ofBody?_octets (content_wellFormed p r) hnone

theorem ofFamily_ascending {as : List Address} (h : as.Pairwise (· < ·)) (family : Afi) :
    (Nlri.ofFamily family as).Pairwise (· < ·) :=
  h.sublist List.filter_sublist

/-- **A rendered body decodes to the policy and the routes it was rendered from.**  Outside the
attributes it has the IPv4 routes in ascending order; it has attributes exactly where something is
advertised or an IPv6 route is withdrawn, and then those of the announcement of the IPv6 routes in
ascending order, no kind twice. -/
theorem render_decodes (p : Policy) (r : RouteSet) (body : Bytes) (h : p.render r = .ok body) :
    ∃ c reachable unreachable, Content.ofBody? body = some c
      ∧ c.withdrawn = r.withdrawn.filter (·.family = .ipv4) ∧ c.withdrawn.Pairwise (· < ·)
      ∧ c.advertised = r.advertised.filter (·.family = .ipv4) ∧ c.advertised.Pairwise (· < ·)
      ∧ reachable = r.advertised.filter (·.family = .ipv6) ∧ reachable.Pairwise (· < ·)
      ∧ unreachable = r.withdrawn.filter (·.family = .ipv6) ∧ unreachable.Pairwise (· < ·)
      ∧ (c.attributes = [] ↔ r.advertised = [] ∧ unreachable = [])
      ∧ (c.attributes ≠ [] → c.attributes = p.announcement reachable unreachable)
      ∧ (c.attributes.map Value.kind).Nodup := by
  refine ⟨p.content r, _, _, ofBody?_of_render h, rfl, ofFamily_ascending r.withdrawn_ascending _,
    rfl, ofFamily_ascending r.advertised_ascending _, rfl,
    ofFamily_ascending r.advertised_ascending _, rfl, ofFamily_ascending r.withdrawn_ascending _,
    attributes_content_eq_nil_iff p r, ?_⟩
  show ((if needsAttributes r then _ else []) ≠ [] → (if needsAttributes r then _ else []) = _)
    ∧ ((if needsAttributes r then _ else []).map Value.kind).Nodup
  split
  · exact ⟨fun _ => rfl, nodup_kinds_announcement ..⟩
  · exact ⟨fun hne => absurd rfl hne, List.nodup_nil⟩

def taggedPolicy : Policy :=
  { nextHop := .ofNat 0x0A010203, asn := 65000, peerAsn := 65001, med := 7,
    communities := [.noExport] }

/-- an advertised and a withdrawn IPv4 route, and an advertised IPv6 route -/
def mixedRoutes : RouteSet where
  entries := [(.v4 (.ofNat 0x0A000001), true), (.v4 (.ofNat 0x0A000002), false),
    (.v6 (.ofNat 3), true)]
  ascending := by decide

def mixedBody : Bytes :=
  [0, 5, 32, 10, 0, 0, 2, 0, 73, 0x40, 1, 1, 0, 0x40, 2, 4, 2, 1, 253, 232, 0x40, 3, 4, 10, 1, 2, 3,
    0xC0, 8, 4, 255, 255, 255, 1, 0x80, 4, 4, 0, 0, 0, 7, 0x80, 14, 38, 0, 2, 1, 16]
    ++ List.replicate 17 0 ++ 128 :: List.replicate 15 0 ++ [3, 32, 10, 0, 0, 1]

/-- a policy for a peer in the own AS that leaves the local preference at its default -/
def internalPolicy : Policy :=
  { nextHop := .ofNat 0x0A010203, nextHop6 := .global (.ofNat 5), asn := 65000, peerAsn := 65000,
    med := 7, communities := [.noExport] }

/-- an advertised and a withdrawn route of each family -/
def fourRoutes : RouteSet where
  entries := [(.v4 (.ofNat 0x0A000001), true), (.v4 (.ofNat 0x0A000002), false),
    (.v6 (.ofNat 3), true), (.v6 (.ofNat 4), false)]
  ascending := by decide

def fourRoutesBody : Bytes :=
  [0, 5, 32, 10, 0, 0, 2, 0, 99, 0x40, 1, 1, 0, 0x40, 2, 0, 0x40, 3, 4, 10, 1, 2, 3,
    0x40, 5, 4, 0, 0, 0, 100, 0xC0, 8, 4, 255, 255, 255, 1, 0x80, 4, 4, 0, 0, 0, 7,
    0x80, 14, 38, 0, 2, 1, 16] ++ List.replicate 15 0 ++ [5, 0, 128] ++ List.replicate 15 0
    ++ [3, 0x80, 15, 20, 0, 2, 1, 128] ++ List.replicate 15 0 ++ [4, 32, 10, 0, 0, 1]

/-- a peer in another AS and a peer in the own AS -/
theorem render_decodes_mixed :
    (taggedPolicy.render mixedRoutes = .ok mixedBody
      ∧ ∃ c, Content.ofBody? mixedBody = some c
        ∧ c.attributes = taggedPolicy.announcement [.v6 (.ofNat 3)] [])
      ∧ internalPolicy.render fourRoutes = .ok fourRoutesBody
      ∧ ∃ c, Content.ofBody? fourRoutesBody = some c
        ∧ c.attributes = [.origin .igp, .asPath [], .nextHop (.ofNat 0x0A010203), .localPreference 100,
          .communities [.noExport], .multiExitDiscriminator 7,
          .mpReachable (.global (.ofNat 5)) [.v6 (.ofNat 3)], .mpUnreachable [.v6 (.ofNat 4)]] := by
  have hexternal : taggedPolicy.render mixedRoutes = .ok mixedBody := by decide +kernel
  have hinternal : internalPolicy.render fourRoutes = .ok fourRoutesBody := by decide +kernel
  have hread {p : Policy} {r : RouteSet} {body : Bytes} (hbody : p.render r = .ok body)
      (hsome : r.advertised ≠ []) : ∃ c, Content.ofBody? body = some c
        ∧ c.attributes = p.announcement (r.advertised.filter (·.family = .ipv6))
          (r.withdrawn.filter (·.family = .ipv6)) := by
    obtain ⟨c, reachable, unreachable, hc, -, -, -, -, rfl, -, rfl, -, hnil, hattributes, -⟩ :=
      render_decodes p r body hbody
    have hne : c.attributes ≠ [] := by
      intro hempty
      exact hsome (hnil.mp hempty).1
    exact ⟨c, hc, hattributes hne⟩
  exact ⟨⟨hexternal, hread hexternal (by decide)⟩, hinternal, hread hinternal (by decide)⟩

end Policy

end RouteHealth
