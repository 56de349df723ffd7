import Mathlib.Tactic
import RouteHealth.Address

/-!
# The octets of an address

An IPv4 address has four octets, and an address of either family is the number that its octets read as.
All IPv4 addresses come before all IPv6 addresses (`Address.lt_of_family`).
-/

namespace RouteHealth

namespace IPv4

theorem exists_octets (a : IPv4) : ∃ b c d e, a.octets = [b, c, d, e] := by
  obtain ⟨octets, hlength⟩ := a
  match octets, hlength with
  | [b, c, d, e], _ => exact ⟨b, c, d, e, rfl⟩

theorem ofNat_toNat_octets (a : IPv4) : ofNat (Bytes.toNat a.octets) = a := by
  have h := Bytes.ofNat_toNat a.octets
  rw [a.length_octets] at h
  exact IPv4.ext h

end IPv4

theorem Address.lt_of_family {a b : Address} (ha : a.family = .ipv4) (hb : b.family = .ipv6) :
    a < b := by
  show a.key < b.key
  rw [key, key, ha, hb, List.cons_lt_cons_iff]
  exact .inl (by decide)

end RouteHealth
