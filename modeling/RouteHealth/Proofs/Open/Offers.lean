import RouteHealth.Proofs.Message

/-!
# Offers that are made are read back

Each offer is written as eight octets, so up to 31 offers are parameters that an OPEN can declare
(`Open.keepsParameters_iff_of_offers`).  An OPEN with such parameters is received with the offers as they
were made, in their order, and with the flag that they stand for (`Open.offers_received`).
-/

namespace RouteHealth

theorem Multiprotocol.octets_parameter (o : Multiprotocol) :
    o.parameter.octets = [2, 6, 1, 4, 0, UInt8.ofNat (Registry.code o.family), 0,
      UInt8.ofNat (Registry.code o.subsequent)] := by
  obtain ⟨family, subsequent⟩ := o
  cases family <;> cases subsequent <;> rfl

namespace Open

variable {m : Open} {offers : List Multiprotocol}

theorem length_offers (offers : List Multiprotocol) :
    (offers.flatMap fun o => o.parameter.octets).length = 8 * offers.length := by
  apply Bytes.length_flatMap
  intro o _
  rw [o.octets_parameter]
  rfl

theorem keepsParameters_iff_of_offers (h : m.parameters = offers.flatMap fun o => o.parameter.octets) :
    m.KeepsParameters ↔ 1 ≤ offers.length ∧ offers.length ≤ 31 := by
  have hlength : m.parameters.length = 8 * offers.length := by rw [h, length_offers]
  rw [KeepsParameters, ← List.length_pos_iff, hlength]
  omega

theorem capabilities_of_offers (h : m.parameters = offers.flatMap fun o => o.parameter.octets) :
    m.capabilities = .ok (offers.map Multiprotocol.capability) := by
  rw [capabilities, h, Capability.ofParameters_offers]

theorem multiprotocol?_offers (offers : List Multiprotocol) :
    (offers.map Multiprotocol.capability).map Capability.multiprotocol? = offers.map some := by
  rw [List.map_map]
  exact List.map_congr_left fun o _ => o.multiprotocol?_capability

/-- **Offers that are made are read back.**  Any list of offers, each in a parameter of its own, is read as
one capability for each of them, in their order, and every one says what was offered.  Where there are
some and at most 31, an OPEN with them as its parameters is received with the same capabilities, whatever
its other fields are, and is said to carry IPv6 exactly if IPv6 unicast is among the offers. -/
theorem offers_received (m : Open) (offers : List Multiprotocol)
    (h : m.parameters = offers.flatMap fun o => o.parameter.octets) :
    (∃ capabilities, m.capabilities = .ok capabilities
        ∧ capabilities.map Capability.multiprotocol? = offers.map some)
      ∧ (1 ≤ offers.length → offers.length ≤ 31 →
        ∃ m', Message.ofParts 1 m.body = .ok (.opening m') ∧ m'.capabilities = m.capabilities
          ∧ (m'.multiprotocol = true ↔ .ipv6Unicast ∈ offers)) := by
  refine ⟨⟨_, capabilities_of_offers h, multiprotocol?_offers offers⟩, ?_⟩
  intro hsome hfew
  have hwritten : m.writtenParameters = m.parameters :=
    writtenParameters_of_keeps ((keepsParameters_iff_of_offers h).mpr ⟨hsome, hfew⟩)
  refine ⟨m.reread, ?_, ?_, ?_⟩
  · show (ofBody m.body).map Message.opening = _
    rw [ofBody_body]
    rfl
  · show Capability.ofParameters m.writtenParameters = _
    rw [hwritten]
    rfl
  · show offersIPv6 m.writtenParameters = true ↔ _
    rw [hwritten, h, offersIPv6_offers]
    simp

/-- an OPEN of another version with its flag not set, and three offers of which two are the same -/
def repeatingOpen : Open where
  version := 3
  asn := 65000
  holdTime := 90
  routerId := .ofNat 0x0A000001
  multiprotocol := false
  parameters := [2, 6, 1, 4, 0, 2, 0, 1, 2, 6, 1, 4, 0, 1, 0, 2, 2, 6, 1, 4, 0, 2, 0, 1]

theorem offers_received_repeating :
    ∃ m', Message.ofParts 1 repeatingOpen.body = .ok (.opening m') ∧ m'.multiprotocol = true
      ∧ ∃ capabilities, m'.capabilities = .ok capabilities
        ∧ capabilities.map Capability.multiprotocol?
          = [some .ipv6Unicast, some ⟨.ipv4, .multicast⟩, some .ipv6Unicast] := by
  obtain ⟨⟨capabilities, hread, hoffers⟩, hreceived⟩ := offers_received repeatingOpen
    [.ipv6Unicast, ⟨.ipv4, .multicast⟩, .ipv6Unicast] rfl
  obtain ⟨m', hparts, hsame, hflag⟩ := hreceived (by decide) (by decide)
  exact ⟨m', hparts, hflag.mpr (by decide), capabilities, hsame.trans hread, hoffers⟩

end Open

end RouteHealth
