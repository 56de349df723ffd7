import RouteHealth.Proofs.Update.Outcome

/-!
# The outcome of rendering in numbers

How many routes there are of each family, to advertise and to withdraw, decides with the policy whether
they have a body, how long it is, and why there is none (`Policy.render_outcome`).
-/

namespace RouteHealth

namespace RouteSet

/-- the number of routes with a flag and a family -/
def count (r : RouteSet) (flag : Bool) (family : Afi) : Nat :=
  r.entries.countP fun e => e.2 = flag ∧ e.1.family = family

theorem length_ofFamily_filter (ps : List Route) (flag : Bool) (family : Afi) :
    (Nlri.ofFamily family ((ps.filter (·.2 = flag)).map (·.1))).length
      = ps.countP fun e => e.2 = flag ∧ e.1.family = family := by
  rw [Nlri.ofFamily, List.filter_map, List.length_map, List.filter_filter,
    ← List.countP_eq_length_filter]
  apply List.countP_congr
  intro e _
  simp [and_comm]

theorem length_ofFamily_advertised (r : RouteSet) (family : Afi) :
    (Nlri.ofFamily family r.advertised).length = r.count true family := by
  have h := length_ofFamily_filter r.entries true family
  simp only [Bool.decide_eq_true] at h
  exact h

theorem length_ofFamily_withdrawn (r : RouteSet) (family : Afi) :
    (Nlri.ofFamily family r.withdrawn).length = r.count false family := by
  have h := length_ofFamily_filter r.entries false family
  simp only [Bool.decide_eq_false] at h
  exact h

end RouteSet

namespace Policy

theorem needsAttributes_iff (r : RouteSet) :
    needsAttributes r ↔ 0 < r.count true .ipv4 + r.count true .ipv6 + r.count false .ipv6 := by
  have hadvertised := (Nlri.ofFamily_perm r.advertised).length_eq
  rw [List.length_append, r.length_ofFamily_advertised, r.length_ofFamily_advertised] at hadvertised
  rw [needsAttributes, ← List.length_eq_zero_iff, ← List.length_eq_zero_iff,
    r.length_ofFamily_withdrawn]
  omega

/-- the length of the attributes of so many routes -/
theorem attributesLength_eq (p : Policy) (r : RouteSet) :
    p.attributesLength r
      = if 0 < r.count true .ipv4 + r.count true .ipv6 + r.count false .ipv6 then
        p.announcementLength (r.count true .ipv6) (r.count false .ipv6)
      else 0 := by
  simp only [attributesLength, needsAttributes_iff, r.length_ofFamily_advertised,
    r.length_ofFamily_withdrawn]

theorem bodyLength_eq_count (p : Policy) (r : RouteSet) :
    p.bodyLength r = 4 + 5 * r.count false .ipv4 + p.attributesLength r + 5 * r.count true .ipv4 := by
  rw [bodyLength_eq, r.length_ofFamily_withdrawn, r.length_ofFamily_advertised]

/-- the length of a body that announces IPv4 routes and nothing else -/
theorem bodyLength_crowdedPolicy {tags : Nat} (h : 63 < tags) {r : RouteSet}
    (hsome : r.count true .ipv4 ≠ 0) (hreachable : r.count true .ipv6 = 0)
    (hwithdrawn : r.count false .ipv4 = 0) (hunreachable : r.count false .ipv6 = 0) :
    (crowdedPolicy tags).bodyLength r = 29 + 4 * tags + 5 * r.count true .ipv4 := by
  rw [bodyLength_eq_count, attributesLength_eq, hreachable, hwithdrawn, hunreachable,
    if_pos (by omega), announcementLength_crowdedPolicy h]
  omega

theorem bodyLength_singleton_crowdedPolicy {tags : Nat} (h : 63 < tags) (a : IPv4) :
    (crowdedPolicy tags).bodyLength (.singleton (.v4 a, true)) = 34 + 4 * tags := by
  have hone : (RouteSet.singleton (.v4 a, true)).count true .ipv4 = 1 := rfl
  rw [bodyLength_crowdedPolicy h (by rw [hone]; decide) rfl rfl rfl, hone]
  omega

/-- the length of a body, or why there is none, where the values that may be too long are those of the
tags and of so many IPv6 routes, and the parts have given lengths -/
theorem length_render (p : Policy) (r : RouteSet) :
    (p.render r).map List.length =
      if needsAttributes r ∧ 65535 < 4 * p.communities.length then
        .error (.attributeTooLarge .communities (4 * p.communities.length))
      else if needsAttributes r ∧ r.count true .ipv6 ≠ 0
          ∧ 65535 < 5 + p.nextHop6.wireLength + 17 * r.count true .ipv6 then
        .error (.attributeTooLarge .mpReachable
          (5 + p.nextHop6.wireLength + 17 * r.count true .ipv6))
      else if needsAttributes r ∧ r.count false .ipv6 ≠ 0
          ∧ 65535 < 3 + 17 * r.count false .ipv6 then
        .error (.attributeTooLarge .mpUnreachable (3 + 17 * r.count false .ipv6))
      else if 65535 < 5 * r.count false .ipv4 then
        .error (.sectionTooLarge .withdrawnRoutes (5 * r.count false .ipv4))
      else if 65535 < p.attributesLength r then
        .error (.sectionTooLarge .pathAttributes (p.attributesLength r))
      else .ok (p.bodyLength r) := by
  rw [render_eq, obstacle?, overlongValue?, r.length_ofFamily_advertised,
    r.length_ofFamily_withdrawn, r.length_ofFamily_withdrawn]
  by_cases hneeded : needsAttributes r
  · simp only [hneeded, if_true, true_and]
    split_ifs <;> rfl
  · simp only [hneeded, if_false, false_and]
    split_ifs <;> rfl

/-- **The outcome of rendering.**  The tags are looked at first, then the two attributes of IPv6 routes,
the withdrawn IPv4 routes and all attributes together.  Where nothing is too long there is a body, and its
length is the sum of its parts. -/
theorem render_outcome (p : Policy) (r : RouteSet) :
    let a4 := r.count true .ipv4
    let a6 := r.count true .ipv6
    let w4 := r.count false .ipv4
    let w6 := r.count false .ipv6
    let k := p.communities.length
    let h := p.nextHop6.octets.length
    let needed := 0 < a4 + a6 + w6
    let tlv := fun v => if v ≤ 255 then v + 3 else v + 4
    let attributes := if needed then
        (if p.isExternal then 18 else 21)
          + (if 0 < k then tlv (4 * k) else 0)
          + (if 0 < p.med then 7 else 0)
          + (if 0 < a6 then tlv (5 + h + 17 * a6) else 0)
          + (if 0 < w6 then tlv (3 + 17 * w6) else 0)
      else 0
    (h = 16 ∨ h = 32) ∧ (p.render r).map List.length =
      if needed ∧ 65535 < 4 * k then .error (.attributeTooLarge .communities (4 * k))
      else if 0 < a6 ∧ 65535 < 5 + h + 17 * a6 then
        .error (.attributeTooLarge .mpReachable (5 + h + 17 * a6))
      else if 0 < w6 ∧ 65535 < 3 + 17 * w6 then
        .error (.attributeTooLarge .mpUnreachable (3 + 17 * w6))
      else if 65535 < 5 * w4 then .error (.sectionTooLarge .withdrawnRoutes (5 * w4))
      else if 65535 < attributes then .error (.sectionTooLarge .pathAttributes attributes)
      else .ok (4 + 5 * w4 + attributes + 5 * a4) := by
  intro a4 a6 w4 w6 k h needed tlv attributes
  have hhop : p.nextHop6.wireLength = h := p.nextHop6.length_octets.symm
  have htags : 0 < k ↔ ¬p.communities = [] := List.length_pos_iff
  have hmed : 0 < p.med ↔ ¬p.med = 0 := UInt32.pos_iff_ne_zero
  have ha6 : 0 < a6 ↔ ¬a6 = 0 := Nat.pos_iff_ne_zero
  have hw6 : 0 < w6 ↔ ¬w6 = 0 := Nat.pos_iff_ne_zero
  have hattributes : p.attributesLength r = attributes := by
    rw [attributesLength_eq, announcementLength, hhop]
    simp only [attributes, htags, hmed, ha6, hw6, ite_not]
    rfl
  have hneeded : needsAttributes r ↔ needed := needsAttributes_iff r
  -- an IPv6 route needs attributes
  have hreachable : (needsAttributes r ∧ a6 ≠ 0 ∧ 65535 < 5 + h + 17 * a6)
      ↔ 0 < a6 ∧ 65535 < 5 + h + 17 * a6 := by
    rw [hneeded]
    omega
  have hunreachable : (needsAttributes r ∧ w6 ≠ 0 ∧ 65535 < 3 + 17 * w6)
      ↔ 0 < w6 ∧ 65535 < 3 + 17 * w6 := by
    rw [hneeded]
    omega
  constructor
  · rw [← hhop]
    cases p.nextHop6 with
    | global a => exact .inl rfl
    | globalAndLinkLocal a l => exact .inr rfl
  · rw [length_render, bodyLength_eq_count, hattributes, hhop]
    exact if_congr (and_congr_left' hneeded) rfl
      (if_congr hreachable rfl (if_congr hunreachable rfl rfl))

end Policy

end RouteHealth
