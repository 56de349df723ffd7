import RouteHealth.Proofs.Capability.Grammar
import RouteHealth.Proofs.Reading

/-!
# What a received block offers

An offer is read from the first, second and fourth octet of its value; the third octet and all after the
fourth are of no account (`Multiprotocol.ofOctets_eq_ok_iff`).  So an OPEN offers IPv6 unicast exactly if
its block can be read as a whole and a capability in it has the code and these octets of the offer
(`Open.offersIPv6_iff`).  The blocks that cannot be read are those in which a parameter, or a capability
in its parameter, is cut short (`Capability.malformed_iff`).
-/

namespace RouteHealth

theorem Afi.ofCode?_code (family : Afi) : Registry.ofCode? (Registry.code family) = some family := by
  cases family <;> rfl

theorem Safi.ofCode?_code (subsequent : Safi) :
    Registry.ofCode? (Registry.code subsequent) = some subsequent := by
  cases subsequent <;> rfl

/-! ## offers -/

namespace Multiprotocol

/-- an offer names its family in two octets and its subsequent family in the fourth one -/
theorem ofOctets_eq_ok_iff {bs : Bytes} {m : Multiprotocol} :
    ofOctets bs = .ok m ↔ ∃ reserved further, bs = Bytes.ofNat 2 (Registry.code m.family)
      ++ reserved :: UInt8.ofNat (Registry.code m.subsequent) :: further := by
  have hread : ofOctets bs = .ok m ↔ ∃ rest, reader.runOn bs = (.ok m, rest) := by
    refine ⟨fun h => ⟨(reader.runOn bs).2, Prod.ext h rfl⟩, ?_⟩
    rintro ⟨rest, h⟩
    exact congrArg Prod.fst h
  rw [hread]
  unfold reader Reader.afi Reader.safi
  simp only [Reader.runOn_bind_eq_ok_iff, Reader.runOn_pure_eq_ok_iff, Reader.runOn_octet_eq_ok_iff,
    Reader.runOn_member_eq_ok_iff Afi.ofCode?_code, Reader.runOn_member_eq_ok_iff Safi.ofCode?_code]
  constructor
  · rintro ⟨_, _, _, ⟨front, hbs, hlength, hfamily⟩, reserved, _, rfl, _, _, ⟨last, rfl, hlast,
      hsubsequent⟩, rfl, rfl⟩
    obtain ⟨b, rfl⟩ := List.length_eq_one_iff.mp hlast
    have hfront := Bytes.ofNat_toNat front
    rw [hlength, hfamily] at hfront
    rw [Bytes.toNat_singleton] at hsubsequent
    rw [hbs, ← hfront, ← hsubsequent, UInt8.ofNat_toNat]
    exact ⟨reserved, _, rfl⟩
  · rintro ⟨reserved, further, rfl⟩
    have hfamily : Bytes.toNat (Bytes.ofNat 2 (Registry.code m.family)) = Registry.code m.family := by
      cases m.family <;> rfl
    have hsubsequent :
        Bytes.toNat [UInt8.ofNat (Registry.code m.subsequent)] = Registry.code m.subsequent := by
      cases m.subsequent <;> rfl
    exact ⟨further, m.family, _, ⟨_, rfl, Bytes.length_ofNat 2 _, hfamily⟩, reserved, _, rfl,
      m.subsequent, _, ⟨_, rfl, rfl, hsubsequent⟩, rfl, rfl⟩

end Multiprotocol

/-! ## blocks that offer IPv6 unicast -/

/-- whether an item is an offer of IPv6 unicast: the code of an offer, the two octets of the family, any
third octet, the octet of the subsequent family, and anything -/
def Item.OffersIPv6 (i : Item) : Prop :=
  i.code = 1 ∧ ∃ reserved further, i.value = 0 :: 2 :: reserved :: 1 :: further

namespace Capability

theorem kind_ofItem_eq_multiprotocol_iff (i : Item) : (ofItem i).kind = .multiprotocol ↔ i.code = 1 := by
  constructor
  · intro h
    have hcode : OpenRegistry.octet (ofItem i).kind = i.code := CapabilityKind.octet_ofCode i.code
    rw [← hcode, h]
    rfl
  · intro h
    show (OpenRegistry.ofCode i.code : CapabilityKind) = .multiprotocol
    rw [h]
    rfl

theorem multiprotocol?_eq_some_iff {c : Capability} {m : Multiprotocol} :
    c.multiprotocol? = some m ↔ c.kind = .multiprotocol ∧ Multiprotocol.ofOctets c.value = .ok m := by
  unfold multiprotocol?
  split
  next h => rw [toOption_eq_some_iff, and_iff_right h]
  next h =>
    constructor
    · intro hnone
      cases hnone
    · rintro ⟨hkind, -⟩
      exact absurd hkind h

theorem multiprotocol?_ofItem_eq_ipv6Unicast_iff (i : Item) :
    (ofItem i).multiprotocol? = some .ipv6Unicast ↔ i.OffersIPv6 := by
  rw [multiprotocol?_eq_some_iff, kind_ofItem_eq_multiprotocol_iff, Multiprotocol.ofOctets_eq_ok_iff]
  rfl

end Capability

/-- a block offers IPv6 unicast exactly if all of it can be read and an offer of it is in it -/
theorem Open.offersIPv6_iff (block : Bytes) :
    offersIPv6 block = true ↔ ∃ parameters contents, Capability.IsBlock block parameters contents
      ∧ ∃ item ∈ contents.flatten, item.OffersIPv6 := by
  unfold offersIPv6
  rcases Capability.ofParameters_cases block with ⟨parameters, contents, hblock, hread⟩ |
    ⟨hnone, _, _, -, hread⟩
  · rw [hread]
    simp only [List.any_map, List.any_eq_true, Function.comp_apply, decide_eq_true_eq,
      Capability.multiprotocol?_ofItem_eq_ipv6Unicast_iff]
    constructor
    · intro h
      exact ⟨parameters, contents, hblock, h⟩
    · rintro ⟨parameters', contents', hblock', h⟩
      rw [(hblock.unique hblock').2]
      exact h
  · rw [hread]
    constructor
    · intro h
      cases h
    · rintro ⟨parameters, contents, hblock, -⟩
      exact absurd ⟨parameters, contents, hblock⟩ hnone

/-! ## blocks that cannot be read -/

namespace Capability

/-- after some parameters a parameter is cut short, or a capability in a parameter is, whatever follows
the parameter -/
inductive Malformed : Bytes → Prop
  | parameter {before part : Bytes} {parameters : List Item} {needed remaining : Nat}
      (hbefore : Item.Run before parameters) (hpart : Item.CutShort part needed remaining) :
      Malformed (before ++ part)
  | capability {before whole part : Bytes} {length : UInt8} {parameters items : List Item}
      {needed remaining : Nat} (after : Bytes) (hbefore : Item.Run before parameters)
      (hlength : (whole ++ part).length = length.toNat) (hwhole : Item.Run whole items)
      (hpart : Item.CutShort part needed remaining) :
      Malformed (before ++ 2 :: length :: (whole ++ part ++ after))

theorem malformed_of_not_carries {block : Bytes} {parameters : List Item}
    (hrun : Item.Run block parameters) {parameter : Item} (hmem : parameter ∈ parameters)
    (h : ¬∃ items, Carries parameter items) : Malformed block := by
  have hcode : parameter.code = 2 := by
    by_contra hother
    exact h ⟨[], .other hother⟩
  obtain ⟨before, earlier, length, after, rfl, hbefore, hlength⟩ := hrun.exists_append_of_mem hmem
  obtain ⟨code, value⟩ := parameter
  subst hcode
  obtain ⟨whole, items, part, rfl, hwhole, rfl | ⟨needed, remaining, hpart⟩⟩ :=
    Item.exists_run_append value
  · rw [List.append_nil] at h
    exact absurd ⟨items, .capabilities hwhole⟩ h
  · exact .capability after hbefore hlength hwhole hpart

/-- a block is malformed exactly if it does not consist of parameters with their capabilities -/
theorem malformed_iff (block : Bytes) :
    Malformed block ↔ ¬∃ parameters contents, IsBlock block parameters contents := by
  constructor
  · rintro hmalformed ⟨parameters, contents, hblock⟩
    cases hmalformed with
    | parameter hbefore hpart => exact hbefore.not_run_append hpart hblock.run
    | capability after hbefore hlength hwhole hpart =>
      have hmem := mem_readAll_parameter hbefore hlength 2 after
      obtain ⟨items, hcarries⟩ := hblock.exists_carries hmem
      cases hcarries with
      | capabilities hrun => exact hwhole.not_run_append hpart hrun
      | other h => exact h rfl
  · intro hnone
    obtain ⟨front, parameters, rest, rfl, hrun, rfl | ⟨needed, remaining, hcut⟩⟩ :=
      Item.exists_run_append block
    · rw [List.append_nil] at hnone ⊢
      by_cases hall : ∀ parameter ∈ parameters, ∃ items, Carries parameter items
      · obtain ⟨contents, hcontents⟩ := exists_forall₂ hall
        exact absurd ⟨parameters, contents, hrun, hcontents⟩ hnone
      · push Not at hall
        obtain ⟨parameter, hmem, hunread⟩ := hall
        exact malformed_of_not_carries hrun hmem (not_exists.mpr hunread)
    · exact .parameter hrun hcut

end Capability

end RouteHealth
