import RouteHealth.Proofs.Capability.Offer
import RouteHealth.Proofs.Open

/-!
# What a received OPEN says

An OPEN is read from any string of at least ten octets: the fixed fields from their places, and the
parameters from all that follows, whatever length is declared for them.  The flag is read from the
parameters as a whole: a block that cannot be read to its end offers nothing (`Open.received_decoded`).
-/

namespace RouteHealth.Open

section

variable (version : UInt8) (asn holdTime : UInt16) (routerId : IPv4) (declared : UInt8)
  (block : Bytes)

/-! ## the places of the fields -/

theorem asn_octets :
    ((octets version asn holdTime routerId declared block).drop 1).take 2 = Bytes.ofWord16 asn := by
  obtain ⟨a, b, h⟩ := Bytes.exists_ofWord16 asn
  rw [octets, h]
  rfl

theorem holdTime_octets :
    ((octets version asn holdTime routerId declared block).drop 3).take 2
      = Bytes.ofWord16 holdTime := by
  obtain ⟨a, b, h⟩ := Bytes.exists_ofWord16 asn
  obtain ⟨c, d, h'⟩ := Bytes.exists_ofWord16 holdTime
  rw [octets, h, h']
  rfl

theorem routerId_octets :
    ((octets version asn holdTime routerId declared block).drop 5).take 4 = routerId.octets := by
  obtain ⟨a, b, h⟩ := Bytes.exists_ofWord16 asn
  obtain ⟨c, d, h'⟩ := Bytes.exists_ofWord16 holdTime
  obtain ⟨e, f, g, i, h''⟩ := routerId.exists_octets
  rw [octets, h, h', h'']
  rfl

theorem set_declared_octets (other : UInt8) :
    (octets version asn holdTime routerId declared block).set 9 other
      = octets version asn holdTime routerId other block := by
  obtain ⟨a, b, h⟩ := Bytes.exists_ofWord16 asn
  obtain ⟨c, d, h'⟩ := Bytes.exists_ofWord16 holdTime
  obtain ⟨e, f, g, i, h''⟩ := routerId.exists_octets
  rw [octets, octets, h, h', h'']
  rfl

end

/-! ## received messages -/

/-- **What a received OPEN is read as.**  Ten octets are enough to read it.  The fields are the numbers in
their places, and the parameters are all octets from the eleventh on, whatever length the tenth declares.
The message offers IPv6 exactly if these are parameters with their capabilities and nothing else, and one
of the capabilities is the offer.  Where a parameter or a capability is cut short the message offers
nothing, whatever stands before it. -/
theorem received_decoded {body : Bytes} (h : 10 ≤ body.length) :
    ∃ m, ofBody body = .ok m
      ∧ body[0]? = some m.version
      ∧ m.asn.toNat = Bytes.toNat ((body.drop 1).take 2)
      ∧ m.holdTime.toNat = Bytes.toNat ((body.drop 3).take 2)
      ∧ m.routerId.toNat = Bytes.toNat ((body.drop 5).take 4)
      ∧ m.parameters = body.drop 10
      ∧ (∀ declared, ofBody (body.set 9 declared) = .ok m)
      ∧ (m.multiprotocol = true ↔ ∃ parameters contents,
          Capability.IsBlock (body.drop 10) parameters contents
            ∧ ∃ item ∈ contents.flatten, item.code = 1
              ∧ ∃ reserved further, item.value = 0 :: 2 :: reserved :: 1 :: further)
      ∧ (Capability.Malformed (body.drop 10) → m.multiprotocol = false) := by
  obtain ⟨version, asn, holdTime, routerId, declared, block, rfl⟩ := exists_octets h
  have hblock : (octets version asn holdTime routerId declared block).drop 10 = block :=
    drop_octets ..
  refine ⟨_, ofBody_octets .., head_octets .., ?_, ?_, ?_, hblock.symm, ?_, ?_, ?_⟩
  · rw [asn_octets, Bytes.toNat_ofWord16]
  · rw [holdTime_octets, Bytes.toNat_ofWord16]
  · rw [routerId_octets]
    rfl
  · intro other
    rw [set_declared_octets, ofBody_octets]
  · rw [hblock]
    exact offersIPv6_iff block
  · intro hmalformed
    rw [hblock, Capability.malformed_iff] at hmalformed
    rw [Bool.eq_false_iff]
    intro hoffers
    obtain ⟨parameters, contents, hread, -⟩ := (offersIPv6_iff block).mp hoffers
    exact hmalformed ⟨parameters, contents, hread⟩

/-- an OPEN that declares no parameters, with a parameter of another type, and then two capabilities in one
parameter, the second of them the offer of IPv6 unicast with other octets in the third place and at the
end -/
def offeringBody : Bytes :=
  [3, 253, 232, 0, 90, 10, 1, 2, 3, 0, 1, 1, 255, 2, 9, 2, 0, 1, 5, 0, 2, 7, 1, 9]

/-- the offer counts, and does not where an octet of another parameter follows -/
theorem received_decoded_offering :
    (∃ m, ofBody offeringBody = .ok m ∧ m.asn.toNat = 65000 ∧ m.multiprotocol = true)
      ∧ ∃ m, ofBody (offeringBody ++ [2]) = .ok m ∧ m.multiprotocol = false := by
  have hother : Item.Run [1, 1, 255] [⟨1, [255]⟩] := @Item.Run.cons 1 1 [255] [] [] rfl .nil
  have hoffer : Item.Run [1, 5, 0, 2, 7, 1, 9] [⟨1, [0, 2, 7, 1, 9]⟩] :=
    @Item.Run.cons 1 5 [0, 2, 7, 1, 9] [] [] rfl .nil
  have hboth : Item.Run [2, 0, 1, 5, 0, 2, 7, 1, 9] [⟨2, []⟩, ⟨1, [0, 2, 7, 1, 9]⟩] :=
    @Item.Run.cons 2 0 [] _ _ rfl hoffer
  have hlast : Item.Run [2, 9, 2, 0, 1, 5, 0, 2, 7, 1, 9] [⟨2, [2, 0, 1, 5, 0, 2, 7, 1, 9]⟩] :=
    @Item.Run.cons 2 9 [2, 0, 1, 5, 0, 2, 7, 1, 9] [] [] rfl .nil
  have hrun := @Item.Run.cons 1 1 [255] _ _ rfl hlast
  constructor
  · obtain ⟨m, hread, -, hasn, -, -, -, -, hflag, -⟩ :=
      received_decoded (show 10 ≤ offeringBody.length by decide)
    refine ⟨m, hread, hasn, hflag.mpr ⟨_, [[], [⟨2, []⟩, ⟨1, [0, 2, 7, 1, 9]⟩]], ⟨hrun, ?_⟩,
      ⟨1, [0, 2, 7, 1, 9]⟩, by decide, rfl, 7, [9], rfl⟩⟩
    exact .cons (.other (by decide)) (.cons (.capabilities hboth) .nil)
  · obtain ⟨m, hread, -, -, -, -, -, -, -, hmalformed⟩ :=
      received_decoded (show 10 ≤ (offeringBody ++ [2]).length by decide)
    exact ⟨m, hread, hmalformed (.parameter hrun (.length 2))⟩

end RouteHealth.Open
