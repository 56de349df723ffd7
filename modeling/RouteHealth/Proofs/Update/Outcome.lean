import RouteHealth.Proofs.Update.Size

/-!
# Why routes have no body

Three values of an announcement may be too long for their length field, and the first of them is the
reason (`Policy.overlong?_announcement`).  With the lengths of the parts this says of all routes
whether they have a body, and why not (`Policy.render_eq`).  One route alone cannot make a value too
long, only the tags can, but its attributes together may be too long where no value is
(`Policy.obstacle?_singleton`).
-/

namespace RouteHealth

open Attribute (Value overlong?)

/-! ## values that are too long -/

namespace Attribute

theorem overlong?_append (vs ws : List (Kind × Bytes)) :
    overlong? (vs ++ ws) = (overlong? vs).or (overlong? ws) := List.find?_append

theorem overlong?_optional (c : Prop) [Decidable c] (v : Value) :
    overlong? ((if c then [] else [v]).map Value.written)
      = if ¬c ∧ 65535 < v.octets.length then some v.written else none := by
  by_cases hc : c
  · rw [if_pos hc, if_neg fun h => h.1 hc]
    rfl
  · rw [if_neg hc]
    show overlong? [v.written] = _
    rw [overlong?, List.find?_cons, List.find?_nil]
    by_cases hv : 65535 < v.octets.length
    · rw [if_pos ⟨hc, hv⟩]
      simp [Value.written, hv]
    · rw [if_neg fun h => hv h.2]
      simp [Value.written, hv]

end Attribute

namespace Policy

variable {p : Policy} {r : RouteSet}

/-- the first value that is too long, and its length, where so many IPv6 routes are announced -/
def overlongValue? (p : Policy) (reachable unreachable : Nat) : Option (Attribute.Kind × Nat) :=
  if 65535 < 4 * p.communities.length then some (.communities, 4 * p.communities.length)
  else if reachable ≠ 0 ∧ 65535 < 5 + p.nextHop6.wireLength + 17 * reachable then
    some (.mpReachable, 5 + p.nextHop6.wireLength + 17 * reachable)
  else if unreachable ≠ 0 ∧ 65535 < 3 + 17 * unreachable then
    some (.mpUnreachable, 3 + 17 * unreachable)
  else none

theorem overlong?_announcement (p : Policy) {reachable unreachable : List Address}
    (hreachable : ∀ a ∈ reachable, a.family = .ipv6)
    (hunreachable : ∀ a ∈ unreachable, a.family = .ipv6) :
    (overlong? ((p.announcement reachable unreachable).map Value.written)).map
        (fun v => (v.1, v.2.length))
      = p.overlongValue? reachable.length unreachable.length := by
  have hfixed : overlong? ([Value.origin .igp, .asPath p.ownPath, .nextHop p.nextHop].map
      Value.written) = none := by
    refine (Attribute.overlong?_eq_none_iff _).mpr (List.forall_mem_map.mpr ?_)
    have hpath := p.length_octets_ownPath
    have hhop := Attribute.length_octets_nextHop p.nextHop
    simp only [List.forall_mem_cons, Value.written]
    refine ⟨Nat.le_of_ble_eq_true rfl, ?_, by omega, nofun⟩
    rw [hpath]
    split <;> omega
  have hcommunities := Attribute.length_octets_communities p.communities
  have hmany : (¬p.communities.length = 0 ∧ 65535 < 4 * p.communities.length)
      ↔ 65535 < 4 * p.communities.length := by omega
  have hreach := Attribute.length_octets_mpReachable p.nextHop6 hreachable
  have hunreach := Attribute.length_octets_mpUnreachable hunreachable
  rw [announcement_eq, overlongValue?]
  simp only [List.map_append, Attribute.overlong?_append, hfixed, Attribute.overlong?_optional,
    Attribute.length_octets_localPreference, Attribute.length_octets_multiExitDiscriminator,
    hcommunities, hmany, hreach, hunreach, ← List.length_eq_zero_iff,
    show ¬65535 < 4 by decide, and_false, if_false, Option.none_or, Option.or_none]
  -- each value that is too long hides those after it
  split
  · exact congrArg (fun n => some (Attribute.Kind.communities, n)) hcommunities
  split
  · exact congrArg (fun n => some (Attribute.Kind.mpReachable, n)) hreach
  split
  · exact congrArg (fun n => some (Attribute.Kind.mpUnreachable, n)) hunreach
  · rfl

/-- why some routes have no body -/
def obstacle? (p : Policy) (r : RouteSet) : Option RenderError :=
  match (if needsAttributes r then
      p.overlongValue? (Nlri.ofFamily .ipv6 r.advertised).length
        (Nlri.ofFamily .ipv6 r.withdrawn).length
    else none) with
  | some v => some (.attributeTooLarge v.1 v.2)
  | none =>
    if 65535 < 5 * (Nlri.ofFamily .ipv4 r.withdrawn).length then
      some (.sectionTooLarge .withdrawnRoutes (5 * (Nlri.ofFamily .ipv4 r.withdrawn).length))
    else if 65535 < p.attributesLength r then
      some (.sectionTooLarge .pathAttributes (p.attributesLength r))
    else none

theorem obstacle?_content (p : Policy) (r : RouteSet) : (p.content r).obstacle? = p.obstacle? r := by
  have hvalue : (overlong? ((p.content r).attributes.map Value.written)).map
        (fun v => (v.1, v.2.length))
      = if needsAttributes r then
        p.overlongValue? (Nlri.ofFamily .ipv6 r.advertised).length
          (Nlri.ofFamily .ipv6 r.withdrawn).length
      else none := by
    rw [content]
    split
    · exact overlong?_announcement p Nlri.family_of_mem_ofFamily Nlri.family_of_mem_ofFamily
    · rfl
  rw [obstacle?, ← hvalue, Content.obstacle?, length_withdrawnOctets_content,
    length_attributeOctets_content]
  cases overlong? ((p.content r).attributes.map Value.written) <;> rfl

theorem render_eq (p : Policy) (r : RouteSet) :
    p.render r = match p.obstacle? r with
      | some cause => .error cause
      | none => .ok (p.content r).octets := by
  have hobstacle := p.obstacle?_content r
  rw [render_eq_encode]
  cases hr : p.obstacle? r with
  | some cause => exact Content.encode_of_some (hobstacle.trans hr)
  | none => exact Content.encode_of_none (hobstacle.trans hr)

/-! ## one route -/

theorem length_ofFamily_advertised_le (r : RouteSet) (family : Afi) :
    (Nlri.ofFamily family r.advertised).length ≤ r.size := by
  refine (List.length_filter_le _ _).trans ?_
  rw [RouteSet.advertised, List.length_map]
  exact List.length_filter_le _ _

theorem length_ofFamily_withdrawn_le (r : RouteSet) (family : Afi) :
    (Nlri.ofFamily family r.withdrawn).length ≤ r.size := by
  refine (List.length_filter_le _ _).trans ?_
  rw [RouteSet.withdrawn, List.length_map]
  exact List.length_filter_le _ _

/-- the values of one route are short, up to its tags -/
theorem overlongValue?_one (p : Policy) {reachable unreachable : Nat} (hreachable : reachable ≤ 1)
    (hunreachable : unreachable ≤ 1) :
    p.overlongValue? reachable unreachable
      = if 65535 < 4 * p.communities.length then some (.communities, 4 * p.communities.length)
        else none := by
  have hhop := p.nextHop6.wireLength_le
  unfold overlongValue?
  rw [if_neg (show ¬(reachable ≠ 0 ∧ _) by omega), if_neg (show ¬(unreachable ≠ 0 ∧ _) by omega)]

/-- why one route has no body: it needs attributes, and its tags alone or all its attributes together
are too long -/
theorem obstacle?_singleton (p : Policy) (e : Route) :
    p.obstacle? (.singleton e) =
      if needsAttributes (.singleton e) ∧ 65535 < 4 * p.communities.length then
        some (.attributeTooLarge .communities (4 * p.communities.length))
      else if 65535 < p.attributesLength (.singleton e) then
        some (.sectionTooLarge .pathAttributes (p.attributesLength (.singleton e)))
      else none := by
  have hadvertised := length_ofFamily_advertised_le (.singleton e) .ipv6
  have hwithdrawn := length_ofFamily_withdrawn_le (.singleton e) .ipv6
  have hrecord := length_ofFamily_withdrawn_le (.singleton e) .ipv4
  rw [RouteSet.size_singleton] at hadvertised hwithdrawn hrecord
  rw [obstacle?, overlongValue?_one p hadvertised hwithdrawn,
    if_neg (show ¬65535 < 5 * _ by omega)]
  by_cases hneeds : needsAttributes (.singleton e)
  · by_cases hmany : 65535 < 4 * p.communities.length
    · have hboth := And.intro hneeds hmany
      simp only [if_pos hneeds, if_pos hmany, if_pos hboth]
    · have hnone : ¬(needsAttributes (.singleton e) ∧ 65535 < 4 * p.communities.length) :=
        fun h => hmany h.2
      simp only [if_pos hneeds, if_neg hmany, if_neg hnone]
  · have hnone : ¬(needsAttributes (.singleton e) ∧ 65535 < 4 * p.communities.length) :=
      fun h => hneeds h.1
    simp only [if_neg hneeds, if_neg hnone]

end Policy

end RouteHealth
