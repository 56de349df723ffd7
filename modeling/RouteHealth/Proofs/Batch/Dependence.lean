import RouteHealth.Proofs.Batch

/-!
# What a peer can see of a policy

A body shows the next hop, the tags, the MED and whether the peer is external; to an external peer also
the own AS number, to an internal one the local preference, and the IPv6 next hop if an IPv6 route is
advertised.  Policies that agree on this (`Policy.SameView`) say the same of the routes and of each part
of them (`Policy.SameView.content_eq`), so they are taken apart in the same way
(`Policy.splitting_congr`).  Conversely the announcement in a body names each of these items
(`Policy.sameView_of_announcement`).  `Policy.render_dependence` has both directions.
-/

namespace RouteHealth.Policy

open Attribute (Value)

/-- the policies agree on all that a peer who is sent some routes can see -/
structure SameView (p q : Policy) (r : RouteSet) : Prop where
  nextHop : p.nextHop = q.nextHop
  communities : p.communities = q.communities
  med : p.med = q.med
  isExternal : p.isExternal = q.isExternal
  asn : p.isExternal = true → p.asn = q.asn
  effectiveLocalPref : p.isExternal = false → p.effectiveLocalPref = q.effectiveLocalPref
  nextHop6 : (∃ a ∈ r.advertised, a.family = .ipv6) → p.nextHop6 = q.nextHop6

/-- the policies render some routes to the same bodies, or fail for the same reason, and take them
apart in the same way -/
structure SameOutput (p q : Policy) (r : RouteSet) : Prop where
  render : p.render r = q.render r
  renderBatch : p.renderBatch r = q.renderBatch r
  splitting : p.splitting r = q.splitting r

variable {p q : Policy} {r s : RouteSet}

/-! ## from what is seen to what is sent -/

theorem SameView.sublist (h : SameView p q r) (hsub : s.entries.Sublist r.entries) :
    SameView p q s where
  nextHop := h.nextHop
  communities := h.communities
  med := h.med
  isExternal := h.isExternal
  asn := h.asn
  effectiveLocalPref := h.effectiveLocalPref
  nextHop6 := by
    rintro ⟨a, ha, hfamily⟩
    exact h.nextHop6 ⟨a, (RouteSet.advertised_sublist hsub).subset ha, hfamily⟩

theorem ofFamily_eq_nil_of_forall {family : Afi} {as : List Address}
    (h : ¬∃ a ∈ as, a.family = family) : Nlri.ofFamily family as = [] := by
  apply List.filter_eq_nil_iff.mpr
  intro a ha hfamily
  exact h ⟨a, ha, by simpa using hfamily⟩

theorem SameView.announcement_eq (h : SameView p q r) (unreachable : List Address) :
    p.announcement (Nlri.ofFamily .ipv6 r.advertised) unreachable
      = q.announcement (Nlri.ofFamily .ipv6 r.advertised) unreachable := by
  have hpath : p.ownPath = q.ownPath := by
    unfold ownPath
    cases hp : p.isExternal with
    | true => rw [← h.isExternal, hp, h.asn hp]
    | false => rw [← h.isExternal, hp]; rfl
  have hpref : (if p.isExternal then [] else [Value.localPreference p.effectiveLocalPref])
      = if q.isExternal then [] else [Value.localPreference q.effectiveLocalPref] := by
    cases hp : p.isExternal with
    | true => rw [← h.isExternal, hp]; rfl
    | false => rw [← h.isExternal, hp, h.effectiveLocalPref hp]
  have hreach : (if Nlri.ofFamily .ipv6 r.advertised = [] then []
        else [Value.mpReachable p.nextHop6 (Nlri.ofFamily .ipv6 r.advertised)])
      = if Nlri.ofFamily .ipv6 r.advertised = [] then []
        else [Value.mpReachable q.nextHop6 (Nlri.ofFamily .ipv6 r.advertised)] := by
    by_cases hsome : ∃ a ∈ r.advertised, a.family = .ipv6
    · rw [h.nextHop6 hsome]
    · rw [if_pos (ofFamily_eq_nil_of_forall hsome), if_pos (ofFamily_eq_nil_of_forall hsome)]
  rw [Policy.announcement_eq, Policy.announcement_eq, hpath, hpref, hreach, h.nextHop, h.communities,
    h.med]

theorem SameView.content_eq (h : SameView p q r) : p.content r = q.content r := by
  rw [content, content, h.announcement_eq]

theorem render_congr (h : p.content r = q.content r) : p.render r = q.render r := by
  rw [render_eq_encode, render_eq_encode, h]

theorem bodyLength_congr (h : p.content r = q.content r) : p.bodyLength r = q.bodyLength r := by
  rw [bodyLength, bodyLength, h]

/-- routes of which two policies say the same, part by part, are taken apart in the same way -/
theorem splitting_congr
    (h : ∀ s : RouteSet, s.entries.Sublist r.entries → p.content s = q.content s) :
    p.splitting r = q.splitting r := by
  induction r using p.splitting_induction with
  | fits r hfits =>
    have hr := h r (.refl _)
    have hq : q.bodyLength r < bodyBound := by rwa [← bodyLength_congr hr]
    rw [splitting_of_fits hfits, splitting_of_fits hq, hr]
  | alone e hfits =>
    have he := h (.singleton e) (.refl _)
    have hq : ¬q.bodyLength (.singleton e) < bodyBound := by rwa [← bodyLength_congr he]
    rw [splitting_singleton hfits, splitting_singleton hq, render_congr he]
  | halves r hfits hsize hlower hupper =>
    have hr := h r (.refl _)
    have hq : ¬q.bodyLength r < bodyBound := by rwa [← bodyLength_congr hr]
    have hl := hlower fun s hs => h s (hs.trans (List.take_sublist _ _))
    have hu := hupper fun s hs => h s (hs.trans (List.drop_sublist _ _))
    rw [splitting_of_halves hfits hsize, splitting_of_halves hq hsize, render_congr hr, hl, hu]

theorem SameView.sameOutput (h : SameView p q r) : SameOutput p q r := by
  have hsplitting : p.splitting r = q.splitting r :=
    splitting_congr fun s hs => (h.sublist hs).content_eq
  refine ⟨render_congr h.content_eq, ?_, hsplitting⟩
  rw [Policy.renderBatch, Policy.renderBatch, hsplitting]

/-! ## from what is sent to what is seen -/

section

variable {reachable unreachable : List Address}

theorem nextHop_mem_announcement {a : IPv4} :
    Value.nextHop a ∈ p.announcement reachable unreachable ↔ a = p.nextHop := by
  simp [announcement_eq, List.mem_ite_nil_left]

theorem asPath_mem_announcement {path : List (UInt8 × List UInt16)} :
    Value.asPath path ∈ p.announcement reachable unreachable ↔ path = p.ownPath := by
  simp [announcement_eq, List.mem_ite_nil_left]

theorem localPreference_mem_announcement {pref : UInt32} :
    Value.localPreference pref ∈ p.announcement reachable unreachable
      ↔ p.isExternal = false ∧ pref = p.effectiveLocalPref := by
  simp [announcement_eq, List.mem_ite_nil_left]

theorem communities_mem_announcement {cs : List Community} :
    Value.communities cs ∈ p.announcement reachable unreachable
      ↔ p.communities ≠ [] ∧ cs = p.communities := by
  simp [announcement_eq, List.mem_ite_nil_left]

theorem multiExitDiscriminator_mem_announcement {med : UInt32} :
    Value.multiExitDiscriminator med ∈ p.announcement reachable unreachable
      ↔ p.med ≠ 0 ∧ med = p.med := by
  simp [announcement_eq, List.mem_ite_nil_left]

theorem mpReachable_mem_announcement {hop : NextHop6} {routes : List Address} :
    Value.mpReachable hop routes ∈ p.announcement reachable unreachable
      ↔ reachable ≠ [] ∧ hop = p.nextHop6 ∧ routes = reachable := by
  simp [announcement_eq, List.mem_ite_nil_left]

end

/-- an item that is told unless it has the value at which it is left out -/
theorem eq_of_optional {α : Type} (omitted : α) {x y : α} (hx : x ≠ omitted → x = y)
    (hy : y ≠ omitted → y = x) : x = y := by
  by_cases h : x = omitted
  · by_cases h' : y = omitted
    · rw [h, h']
    · exact (hy h').symm
  · exact hx h

/-- the announcement of IPv6 routes names all that a peer can see -/
theorem sameView_of_announcement {unreachable : List Address}
    (h : p.announcement (Nlri.ofFamily .ipv6 r.advertised) unreachable
      = q.announcement (Nlri.ofFamily .ipv6 r.advertised) unreachable) :
    SameView p q r := by
  have hmem (v : Value) : v ∈ p.announcement (Nlri.ofFamily .ipv6 r.advertised) unreachable
      ↔ v ∈ q.announcement (Nlri.ofFamily .ipv6 r.advertised) unreachable := by rw [h]
  have hpath := asPath_mem_announcement.mp ((hmem _).mp (asPath_mem_announcement.mpr rfl))
  unfold ownPath at hpath
  refine ⟨?_, ?_, ?_, ?_, ?_, ?_, ?_⟩
  · exact nextHop_mem_announcement.mp ((hmem _).mp (nextHop_mem_announcement.mpr rfl))
  · refine eq_of_optional [] (fun hp => ?_) fun hq => ?_
    · exact (communities_mem_announcement.mp
        ((hmem _).mp (communities_mem_announcement.mpr ⟨hp, rfl⟩))).2
    · exact (communities_mem_announcement.mp
        ((hmem _).mpr (communities_mem_announcement.mpr ⟨hq, rfl⟩))).2
  · refine eq_of_optional 0 (fun hp => ?_) fun hq => ?_
    · exact (multiExitDiscriminator_mem_announcement.mp
        ((hmem _).mp (multiExitDiscriminator_mem_announcement.mpr ⟨hp, rfl⟩))).2
    · exact (multiExitDiscriminator_mem_announcement.mp
        ((hmem _).mpr (multiExitDiscriminator_mem_announcement.mpr ⟨hq, rfl⟩))).2
  · cases hp : p.isExternal <;> cases hq : q.isExternal <;> simp [hp, hq] at hpath ⊢
  · intro hp
    cases hq : q.isExternal <;> simp [hp, hq] at hpath
    exact hpath
  · intro hp
    exact (localPreference_mem_announcement.mp
      ((hmem _).mp (localPreference_mem_announcement.mpr ⟨hp, rfl⟩))).2
  · rintro ⟨a, ha, hfamily⟩
    have hne : Nlri.ofFamily .ipv6 r.advertised ≠ [] := by
      apply List.ne_nil_of_mem
      exact List.mem_filter.mpr ⟨ha, by simpa using hfamily⟩
    exact (mpReachable_mem_announcement.mp
      ((hmem _).mp (mpReachable_mem_announcement.mpr ⟨hne, rfl, rfl⟩))).2.1

theorem needsAttributes_of_announced
    (h : r.advertised ≠ [] ∨ ∃ a ∈ r.withdrawn, a.family = .ipv6) : needsAttributes r := by
  rintro ⟨hadvertised, hwithdrawn⟩
  rcases h with hne | ⟨a, ha, hfamily⟩
  · exact hne hadvertised
  · have hmem : a ∈ Nlri.ofFamily .ipv6 r.withdrawn :=
      List.mem_filter.mpr ⟨ha, by simpa using hfamily⟩
    rw [hwithdrawn] at hmem
    cases hmem

/-- a body with attributes shows all that a peer can see -/
theorem sameView_of_render {body : Bytes} (hneeds : needsAttributes r)
    (hp : p.render r = .ok body) (hq : q.render r = .ok body) : SameView p q r := by
  have hread := ofBody?_of_render hp
  rw [ofBody?_of_render hq] at hread
  have hattributes := congrArg Content.attributes (Option.some.inj hread)
  simp only [content, if_pos hneeds] at hattributes
  exact sameView_of_announcement hattributes.symm

/-- **What rendering may depend on.**  Policies that agree on what a peer can see have the same output,
errors and splits included.  So nothing depends on the local preference and the peer's AS number where
the peer is external, on the AS number that both share where it is internal, or on the multiprotocol
flag.  Conversely, equal bodies with attributes come from policies that agree on all that a peer can
see. -/
theorem render_dependence (p q : Policy) (r : RouteSet) :
    (SameView p q r → SameOutput p q r)
      ∧ (∀ localPref peerAsn, p.isExternal = true → peerAsn ≠ p.asn →
        SameOutput p { p with localPref, peerAsn } r)
      ∧ (∀ asn, p.isExternal = false → SameOutput p { p with asn, peerAsn := asn } r)
      ∧ (∀ multiprotocol, SameOutput p { p with multiprotocol } r)
      ∧ ((r.advertised ≠ [] ∨ ∃ a ∈ r.withdrawn, a.family = .ipv6) →
        ∀ body, p.render r = .ok body → q.render r = .ok body → SameView p q r) := by
  refine ⟨SameView.sameOutput, ?_, ?_, ?_, ?_⟩
  · intro localPref peerAsn hexternal hne
    have hother : ({ p with localPref, peerAsn } : Policy).isExternal = true := bne_iff_ne.mpr hne
    refine SameView.sameOutput
      ⟨rfl, rfl, rfl, hexternal.trans hother.symm, fun _ => rfl, ?_, fun _ => rfl⟩
    intro hinternal
    rw [hexternal] at hinternal
    cases hinternal
  · intro asn hinternal
    have hother : ({ p with asn, peerAsn := asn } : Policy).isExternal = false := bne_self_eq_false asn
    refine SameView.sameOutput
      ⟨rfl, rfl, rfl, hinternal.trans hother.symm, ?_, fun _ => rfl, fun _ => rfl⟩
    intro hexternal
    rw [hinternal] at hexternal
    cases hexternal
  · intro multiprotocol
    exact SameView.sameOutput ⟨rfl, rfl, rfl, rfl, fun _ => rfl, fun _ => rfl, fun _ => rfl⟩
  · intro hannounced body hp hq
    exact sameView_of_render (needsAttributes_of_announced hannounced) hp hq

/-- `taggedPolicy` with other values of all that its external peer cannot see -/
def taggedTwin : Policy :=
  { taggedPolicy with localPref := 7, peerAsn := 64999, multiprotocol := true }

theorem render_dependence_twin :
    SameView taggedPolicy taggedTwin mixedRoutes
      ∧ taggedPolicy.renderBatch mixedRoutes = taggedTwin.renderBatch mixedRoutes
      ∧ taggedTwin.render mixedRoutes = .ok mixedBody := by
  have hbody : taggedPolicy.render mixedRoutes = .ok mixedBody := by decide +kernel
  obtain ⟨-, hexternal, -, -, hview⟩ := render_dependence taggedPolicy taggedTwin mixedRoutes
  obtain ⟨-, -, -, hflag, -⟩ :=
    render_dependence { taggedPolicy with localPref := 7, peerAsn := 64999 } taggedTwin mixedRoutes
  have hfirst := hexternal 7 64999 (by decide) (by decide)
  have hsecond := hflag true
  have hrender := hfirst.render.trans hsecond.render
  have hbatch := hfirst.renderBatch.trans hsecond.renderBatch
  have htwin : taggedTwin.render mixedRoutes = .ok mixedBody := hrender.symm.trans hbody
  exact ⟨hview (.inl (by decide)) _ hbody htwin, hbatch, htwin⟩

end RouteHealth.Policy
