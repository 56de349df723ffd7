import RouteHealth.Proofs.Attribute.Value
import RouteHealth.Update
import RouteHealth.Update.Content

/-!
# UPDATE bodies by their content

`Policy.content` says what the body of a set of routes has to say, and `Content.encode` writes any
content: `Content.obstacle?` is the one reason why it may have no body, and `Content.octets` is the
body otherwise.  Rendering writes the content (`Policy.render_eq_encode`), so what is shown of
contents holds of rendered bodies.
-/

namespace RouteHealth

open Attribute (Value encodeAll overlong? tlv)

/-! ## bodies of contents -/

namespace Content

def withdrawnOctets (c : Content) : Bytes := c.withdrawn.flatMap Nlri.record

def attributeOctets (c : Content) : Bytes :=
  (c.attributes.map Value.written).flatMap fun v => tlv v.1 v.2

def advertisedOctets (c : Content) : Bytes := c.advertised.flatMap Nlri.record

/-- the body, where nothing is too long for its length field -/
def octets (c : Content) : Bytes :=
  (Bytes.ofNat 2 c.withdrawnOctets.length ++ c.withdrawnOctets)
    ++ (Bytes.ofNat 2 c.attributeOctets.length ++ c.attributeOctets)
    ++ c.advertisedOctets

/-- why there is no body: a value is looked at before a part, and the withdrawn routes before the
attributes -/
def obstacle? (c : Content) : Option RenderError :=
  match overlong? (c.attributes.map Value.written) with
  | some v => some (.attributeTooLarge v.1 v.2.length)
  | none =>
    if 65535 < c.withdrawnOctets.length then
      some (.sectionTooLarge .withdrawnRoutes c.withdrawnOctets.length)
    else if 65535 < c.attributeOctets.length then
      some (.sectionTooLarge .pathAttributes c.attributeOctets.length)
    else none

def encode (c : Content) : Except RenderError Bytes :=
  match c.obstacle? with
  | some e => .error e
  | none => .ok c.octets

theorem encode_of_some {c : Content} {e : RenderError} (h : c.obstacle? = some e) :
    c.encode = .error e := by
  rw [encode, h]

theorem encode_of_none {c : Content} (h : c.obstacle? = none) : c.encode = .ok c.octets := by
  rw [encode, h]

theorem encode_eq_ok_iff (c : Content) (body : Bytes) :
    c.encode = .ok body ↔ c.obstacle? = none ∧ body = c.octets := by
  cases h : c.obstacle? with
  | none => simp [encode_of_none h, eq_comm]
  | some e => simp [encode_of_some h]

theorem obstacle?_eq_none_iff (c : Content) :
    c.obstacle? = none ↔ (∀ v ∈ c.attributes, v.octets.length ≤ 65535)
      ∧ c.withdrawnOctets.length ≤ 65535 ∧ c.attributeOctets.length ≤ 65535 := by
  have hmem : (∀ w ∈ c.attributes.map Value.written, w.2.length ≤ 65535)
      ↔ ∀ v ∈ c.attributes, v.octets.length ≤ 65535 := List.forall_mem_map
  rw [← hmem, ← Attribute.overlong?_eq_none_iff]
  unfold obstacle?
  cases overlong? (c.attributes.map Value.written) with
  | some v => simp
  | none =>
    by_cases hw : 65535 < c.withdrawnOctets.length
    · simp [hw]
    · by_cases ha : 65535 < c.attributeOctets.length
      · simp [hw, ha]
      · simp [hw, ha, Nat.not_lt.mp]

/-- writing the three parts one after the other is writing the content -/
theorem encode_eq (c : Content) :
    c.encode = do
      let attributes ← encodeAll (c.attributes.map Value.written)
      let withdrawn ← Policy.lengthPrefixed .withdrawnRoutes c.withdrawnOctets
      let attributes ← Policy.lengthPrefixed .pathAttributes attributes
      return withdrawn ++ attributes ++ c.advertisedOctets := by
  rw [Attribute.encodeAll_eq, encode, obstacle?]
  cases overlong? (c.attributes.map Value.written) with
  | some v => rfl
  | none =>
    show _ = (Policy.lengthPrefixed .withdrawnRoutes c.withdrawnOctets >>= fun withdrawn =>
      Policy.lengthPrefixed .pathAttributes c.attributeOctets >>= fun attributes =>
        pure (withdrawn ++ attributes ++ c.advertisedOctets))
    rw [Policy.lengthPrefixed, Policy.lengthPrefixed]
    by_cases hw : 65535 < c.withdrawnOctets.length
    · rw [if_pos hw, if_pos hw]
      rfl
    · by_cases ha : 65535 < c.attributeOctets.length
      · rw [if_neg hw, if_neg hw, if_pos ha, if_pos ha]
        rfl
      · rw [if_neg hw, if_neg hw, if_neg ha, if_neg ha]
        rfl

end Content

/-! ## what a policy says of routes -/

namespace Policy

/-- the attributes that announce some IPv6 routes to advertise and to withdraw; a peer in another AS is told
the own AS, as one segment in which the order counts, and a peer in the own AS the local preference -/
def announcement (p : Policy) (reachable unreachable : List Address) : List Value :=
  [Value.origin .igp, Value.asPath (if p.peerAsn = p.asn then [] else [(2, [p.asn])]),
    Value.nextHop p.nextHop]
    ++ (if p.peerAsn = p.asn then [Value.localPreference p.effectiveLocalPref] else [])
    ++ (if p.communities = [] then [] else [Value.communities p.communities])
    ++ (if p.med = 0 then [] else [Value.multiExitDiscriminator p.med])
    ++ (if reachable = [] then [] else [Value.mpReachable p.nextHop6 reachable])
    ++ (if unreachable = [] then [] else [Value.mpUnreachable unreachable])

/-- whether routes need attributes: something is advertised, or an IPv6 route is withdrawn -/
def needsAttributes (r : RouteSet) : Prop :=
  ¬(r.advertised = [] ∧ Nlri.ofFamily .ipv6 r.withdrawn = [])

instance (r : RouteSet) : Decidable (needsAttributes r) := inferInstanceAs (Decidable (¬_))

def content (p : Policy) (r : RouteSet) : Content where
  withdrawn := Nlri.ofFamily .ipv4 r.withdrawn
  attributes :=
    if needsAttributes r then
      p.announcement (Nlri.ofFamily .ipv6 r.advertised) (Nlri.ofFamily .ipv6 r.withdrawn)
    else []
  advertised := Nlri.ofFamily .ipv4 r.advertised

/-- the segments of the path that is told, by the test that rendering makes -/
def ownPath (p : Policy) : List (UInt8 × List UInt16) :=
  if p.isExternal then [(Attribute.asSequence, [p.asn])] else []

theorem octets_ownPath (p : Policy) :
    (Value.asPath p.ownPath).octets = Attribute.asPathValue p.asn p.isExternal := by
  unfold ownPath
  cases p.isExternal <;> rfl

/-! ## rendering writes the content -/

theorem encodeAll_optional (c : Prop) [Decidable c] (v : Value) :
    encodeAll ((if c then [] else [v]).map Value.written)
      = if c then pure [] else Attribute.encode v.kind v.octets := by
  split
  · rfl
  · exact Attribute.encodeAll_singleton v.written

theorem encodeAll_optional_of_ok {v : Value} {bs : Bytes}
    (h : Attribute.encode v.kind v.octets = .ok bs) (c : Prop) [Decidable c] :
    encodeAll ((if c then [] else [v]).map Value.written) = .ok (if c then [] else bs) := by
  rw [encodeAll_optional, h]
  split <;> rfl

theorem encodeAll_fixed (p : Policy) :
    encodeAll (List.map Value.written [.origin .igp, .asPath p.ownPath, .nextHop p.nextHop])
      = .ok (Attribute.origin .igp ++ (Attribute.asPath p.asn p.isExternal
        ++ (Attribute.nextHop p.nextHop ++ []))) := by
  have hpath := Attribute.encode_asPath p.asn p.isExternal
  rw [← octets_ownPath] at hpath
  exact Attribute.encodeAll_cons_of_ok (Attribute.encode_origin .igp)
    (Attribute.encodeAll_cons_of_ok hpath
      (Attribute.encodeAll_cons_of_ok (Attribute.encode_nextHop p.nextHop) rfl))

theorem record_flatMap_eq_nil_iff (as : List Address) : as.flatMap Nlri.record = [] ↔ as = [] := by
  cases as with
  | nil => simp
  | cons a as => simp [Nlri.record]

/-- the announcement by the test that rendering makes -/
theorem announcement_eq (p : Policy) (reachable unreachable : List Address) :
    p.announcement reachable unreachable =
      [Value.origin .igp, .asPath p.ownPath, .nextHop p.nextHop]
        ++ (if p.isExternal then [] else [Value.localPreference p.effectiveLocalPref])
        ++ (if p.communities = [] then [] else [Value.communities p.communities])
        ++ (if p.med = 0 then [] else [Value.multiExitDiscriminator p.med])
        ++ (if reachable = [] then [] else [Value.mpReachable p.nextHop6 reachable])
        ++ (if unreachable = [] then [] else [Value.mpUnreachable unreachable]) := by
  by_cases h : p.peerAsn = p.asn
  · have hinternal : p.isExternal = false := by rw [isExternal, h, bne_self_eq_false]
    rw [announcement, if_pos h, if_pos h, ownPath, hinternal]
    rfl
  · have hexternal : p.isExternal = true := bne_iff_ne.mpr h
    rw [announcement, if_neg h, if_neg h, ownPath, hexternal]
    rfl

/-- the attributes of an announcement are those of its values -/
theorem attributes_eq (p : Policy) (reachable unreachable : List Address) :
    p.attributes (reachable.flatMap Nlri.record) (unreachable.flatMap Nlri.record)
      = encodeAll ((p.announcement reachable unreachable).map Value.written) := by
  have hpref := encodeAll_optional_of_ok (v := .localPreference _)
    (Attribute.encode_localPreference p.effectiveLocalPref) (p.isExternal = true)
  have hmed := encodeAll_optional_of_ok (v := .multiExitDiscriminator _)
    (Attribute.encode_multiExitDiscriminator p.med) (p.med = 0)
  have hok {α β : Type} (a : α) (f : α → Except RenderError β) : (.ok a >>= f) = f a := rfl
  have hjoin (c : Prop) [Decidable c] (e : Except RenderError Bytes)
      (f : Bytes → Except RenderError Bytes) :
      (if c then pure [] >>= f else e >>= f) = (if c then pure [] else e) >>= f := by
    split <;> rfl
  rw [announcement_eq]
  unfold attributes
  simp only [hjoin, record_flatMap_eq_nil_iff]
  simp only [List.map_append, Attribute.encodeAll_append, encodeAll_fixed, hpref, hmed,
    encodeAll_optional, hok, bind_assoc, pure_bind, List.append_assoc, List.append_nil]
  rfl

theorem not_needsAttributes_iff (r : RouteSet) :
    ¬needsAttributes r ↔ Nlri.stream .ipv4 r.advertised = [] ∧ Nlri.stream .ipv6 r.advertised = []
      ∧ Nlri.stream .ipv6 r.withdrawn = [] := by
  have hsplit : r.advertised = []
      ↔ Nlri.ofFamily .ipv4 r.advertised = [] ∧ Nlri.ofFamily .ipv6 r.advertised = [] := by
    rw [← List.append_eq_nil_iff, ← List.length_eq_zero_iff, ← List.length_eq_zero_iff,
      (Nlri.ofFamily_perm r.advertised).length_eq]
  rw [needsAttributes, not_not, hsplit, Nlri.stream_eq_nil_iff, Nlri.stream_eq_nil_iff,
    Nlri.stream_eq_nil_iff, and_assoc]

theorem render_eq_encode (p : Policy) (r : RouteSet) : p.render r = (p.content r).encode := by
  have hattributes : (if needsAttributes r then
        p.attributes (Nlri.stream .ipv6 r.advertised) (Nlri.stream .ipv6 r.withdrawn) else pure [])
      = encodeAll ((p.content r).attributes.map Value.written) := by
    rw [Nlri.stream_eq, Nlri.stream_eq, attributes_eq, content]
    split <;> rfl
  rw [Content.encode_eq, ← hattributes]
  unfold render
  by_cases h : needsAttributes r
  · rw [if_pos h]
    exact if_neg fun hnil => (not_needsAttributes_iff r).mpr hnil h
  · rw [if_neg h]
    exact if_pos ((not_needsAttributes_iff r).mp h)

end Policy

end RouteHealth
