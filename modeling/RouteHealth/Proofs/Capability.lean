import RouteHealth.Capability
import RouteHealth.Proofs.Traversal

/-!
# Offers of families are read back

A run of items whose values are short enough for their length octet is read back as those items and
leaves nothing over (`Item.readAll_flatMap_octets`), at both levels of the optional parameters.  So a
block of offers, each in a parameter of its own, has exactly those offers as its capabilities
(`Capability.ofParameters_offers`), and each of them says what was offered
(`Multiprotocol.multiprotocol?_capability`).
-/

namespace RouteHealth

namespace Item

theorem readAll_octets_append {i : Item} (h : i.value.length ≤ 255) (rest : Bytes) :
    readAll (i.octets ++ rest) = (i :: (readAll rest).1, (readAll rest).2) := by
  have hlength : (UInt8.ofNat i.value.length).toNat = i.value.length := by
    rw [UInt8.toNat_ofNat']
    exact Nat.mod_eq_of_lt (by omega)
  have hwhole : ¬(List.take i.value.length (i.value ++ rest)).length < i.value.length := by
    rw [List.take_left]
    omega
  rw [octets, List.cons_append, List.cons_append, readAll, hlength]
  show (if _ then _ else _) = _
  rw [if_neg hwhole, List.take_left, List.drop_left]

theorem readAll_flatMap_octets (is : List Item) (h : ∀ i ∈ is, i.value.length ≤ 255) :
    readAll (is.flatMap octets) = (is, none) := by
  induction is with
  | nil => rw [List.flatMap_nil, readAll]
  | cons i is ih =>
    have hi := h i (List.mem_cons_self ..)
    have his := ih fun j hj => h j (List.mem_cons_of_mem _ hj)
    rw [List.flatMap_cons, readAll_octets_append hi, his]

end Item

namespace Multiprotocol

/-- the capability that makes an offer -/
def capability (m : Multiprotocol) : Capability := ⟨.multiprotocol, m.octets⟩

theorem ofOctets_octets (m : Multiprotocol) : ofOctets m.octets = .ok m := by
  obtain ⟨family, subsequent⟩ := m
  cases family <;> cases subsequent <;> rfl

theorem multiprotocol?_capability (m : Multiprotocol) : m.capability.multiprotocol? = some m := by
  show (ofOctets m.octets).toOption = some m
  rw [ofOctets_octets]
  rfl

theorem length_octets (m : Multiprotocol) : m.octets.length = 4 := rfl

theorem length_octets_item (m : Multiprotocol) : m.item.octets.length = 6 := rfl

end Multiprotocol

namespace Capability

theorem ofParameter_of_readAll (parameter : Item) {items : List Item}
    (hcode : parameter.code = 2) (hitems : Item.readAll parameter.value = (items, none)) :
    ofParameter parameter = .ok (items.map ofItem) := by
  rw [ofParameter, if_pos (show parameter.code = capabilitiesParameter from hcode), hitems]

theorem ofParameter_parameter (m : Multiprotocol) :
    ofParameter m.parameter = .ok [m.capability] := by
  have hitems : Item.readAll m.item.octets = ([m.item], none) := by
    have h := Item.readAll_flatMap_octets [m.item] fun i hi => by
      rw [List.mem_singleton.mp hi]
      exact m.length_octets.trans_le (by decide)
    rwa [List.flatMap_singleton] at h
  exact ofParameter_of_readAll m.parameter rfl hitems

/-- the capabilities in a block of offers are those offers -/
theorem ofParameters_offers (ms : List Multiprotocol) :
    ofParameters (ms.flatMap fun m => m.parameter.octets)
      = .ok (ms.map Multiprotocol.capability) := by
  have hparameters : Item.readAll (ms.flatMap fun m => m.parameter.octets)
      = (ms.map Multiprotocol.parameter, none) := by
    have h := Item.readAll_flatMap_octets (ms.map Multiprotocol.parameter) fun i hi => by
      obtain ⟨m, -, rfl⟩ := List.mem_map.mp hi
      exact m.length_octets_item.trans_le (by decide)
    rwa [List.flatMap_map] at h
  have hlists : (ms.map Multiprotocol.parameter).mapM ofParameter
      = pure (ms.map fun m => [m.capability]) := by
    rw [List.mapM_map]
    apply mapM_eq_pure_map
    intro m _
    exact ofParameter_parameter m
  have hflat : (ms.map fun m => [m.capability]).flatten = ms.map Multiprotocol.capability := by
    rw [← List.flatMap_def, ← List.map_eq_flatMap]
  unfold ofParameters
  rw [hparameters]
  show ((ms.map Multiprotocol.parameter).mapM ofParameter >>= fun capabilities =>
    pure capabilities.flatten) = _
  rw [hlists, pure_bind, hflat]
  rfl

end Capability

end RouteHealth
