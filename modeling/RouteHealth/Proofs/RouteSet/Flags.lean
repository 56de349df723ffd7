import RouteHealth.Proofs.Address
import RouteHealth.Proofs.Lookup
import RouteHealth.Proofs.Nlri
import RouteHealth.Proofs.RouteSet
import RouteHealth.RouteSet.Lemmas

/-!
# The flags of addresses

The flag of an address is that of its route (`get?_eq_some_iff`), so an address is advertised or
withdrawn as its flag says.  A list of routes in any order makes up the set that has these routes
(`ofList_of_perm`).  Addresses in ascending order are first those of IPv4 and then those of IPv6
(`Nlri.ofFamily_append`).
-/

namespace RouteHealth

theorem Nlri.ofFamily_append {as : List Address} (h : as.Pairwise (· < ·)) :
    ofFamily .ipv4 as ++ ofFamily .ipv6 as = as := by
  have hsorted : (ofFamily .ipv4 as ++ ofFamily .ipv6 as).Pairwise (· < ·) := by
    refine List.pairwise_append.mpr ⟨h.sublist List.filter_sublist, h.sublist List.filter_sublist, ?_⟩
    intro a ha b hb
    exact Address.lt_of_family (family_of_mem_ofFamily a ha) (family_of_mem_ofFamily b hb)
  apply (ofFamily_perm as).eq_of_pairwise _ hsorted h
  intro a b _ _ hab hba
  exact absurd (Address.lt_trans hab hba) (Address.lt_irrefl a)

namespace RouteSet

variable {r : RouteSet} {a : Address} {flag : Bool}

theorem get?_eq_some_iff : r.get? a = some flag ↔ (a, flag) ∈ r.entries :=
  lookup_eq_some_iff_mem r.nodup_addresses

theorem mem_addresses_iff : a ∈ r.entries.map Prod.fst ↔ r.get? a ≠ none := by
  rw [Option.ne_none_iff_exists', List.mem_map]
  simp only [get?_eq_some_iff]
  constructor
  · rintro ⟨⟨b, flag⟩, hmem, rfl⟩
    exact ⟨flag, hmem⟩
  · rintro ⟨flag, hmem⟩
    exact ⟨(a, flag), hmem, rfl⟩

theorem mem_advertised_iff : a ∈ r.advertised ↔ r.get? a = some true := by
  rw [get?_eq_some_iff, advertised, List.mem_map]
  constructor
  · rintro ⟨⟨b, flag⟩, hmem, rfl⟩
    obtain ⟨hentry, hflag⟩ := List.mem_filter.mp hmem
    rwa [show flag = true from hflag] at hentry
  · intro hentry
    exact ⟨(a, true), List.mem_filter.mpr ⟨hentry, rfl⟩, rfl⟩

theorem mem_withdrawn_iff : a ∈ r.withdrawn ↔ r.get? a = some false := by
  rw [get?_eq_some_iff, withdrawn, List.mem_map]
  constructor
  · rintro ⟨⟨b, flag⟩, hmem, rfl⟩
    obtain ⟨hentry, hflag⟩ := List.mem_filter.mp hmem
    rwa [show flag = false by simpa using hflag] at hentry
  · intro hentry
    exact ⟨(a, false), List.mem_filter.mpr ⟨hentry, rfl⟩, rfl⟩

/-- no address is both advertised and withdrawn -/
theorem disjoint_advertised_withdrawn (r : RouteSet) : r.advertised.Disjoint r.withdrawn := by
  intro a hadvertised hwithdrawn
  rw [mem_advertised_iff] at hadvertised
  rw [mem_withdrawn_iff, hadvertised] at hwithdrawn
  cases hwithdrawn

theorem addresses_perm (r : RouteSet) : (r.advertised ++ r.withdrawn).Perm (r.entries.map Prod.fst) := by
  have h := r.flagged_perm.map Prod.fst
  rw [List.map_append, List.map_map, List.map_map] at h
  simpa [Function.comp_def] using h

/-- routes in any order make up the set that has them -/
theorem ofList_of_perm {ps : List Route} (h : ps.Perm r.entries) : ofList ps = r := by
  apply ext_get?
  intro a
  have hnodup : (ps.reverse.map Prod.fst).Nodup :=
    ((ps.reverse_perm.trans h).map Prod.fst).nodup_iff.mpr r.nodup_addresses
  apply Option.ext
  intro flag
  rw [get?_ofList, get?_eq_some_iff, lookup_eq_some_iff_mem hnodup, List.mem_reverse, h.mem_iff]

end RouteSet

end RouteHealth
