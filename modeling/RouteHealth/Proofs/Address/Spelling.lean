import Mathlib.Data.Option.Basic
import RouteHealth.Proofs.Address.Text

/-!
# The spellings of an address

An IPv4 address has one spelling, its text (`IPv4.ofText?_eq_some_iff`).  An IPv6 address has many, and a
colon in each of them, so no text is an address of both families.  In particular an IPv4-mapped address
is never read from the text of the IPv4 address (`Address.ofText?_eq_v4_iff`,
`Address.ofText?_eq_v6_iff`).
-/

namespace RouteHealth

namespace IPv4

theorem eq_chars_of_octet? {cs : List Char} {o : UInt8} (h : octet? cs = some o) :
    cs = Decimal.chars o.toNat := by
  obtain ⟨n, -, h⟩ := Option.bind_eq_some_iff.mp h
  obtain ⟨⟨hn, hcs⟩, h⟩ := Option.ite_none_right_eq_some.mp h
  have ho : o.toNat = n := by
    rw [← Option.some.inj h, UInt8.toNat_ofNat_of_lt' (Nat.lt_succ_of_le hn)]
  rw [ho, ← hcs]

theorem ofChars?_eq_some_iff {cs : List Char} {a : IPv4} : ofChars? cs = some a ↔ cs = a.chars := by
  constructor
  · intro h
    have hoctets : (cs.splitOn '.').mapM octet? = some a.octets := by
      unfold ofChars? at h
      split at h
      next hpieces => rw [hpieces, ← Option.some.inj h]
      next => cases h
    have hpieces : cs.splitOn '.' = a.octets.map fun o => Decimal.chars o.toNat := by
      rw [← List.forall₂_eq_eq_eq, List.forall₂_map_right_iff]
      exact (mapM_eq_some_iff.mp hoctets).imp fun _ _ => eq_chars_of_octet?
    rw [chars, ← hpieces, List.intercalate_splitOn]
  · rintro rfl
    exact a.ofChars?_chars

/-- an IPv4 address has one spelling -/
theorem ofText?_eq_some_iff {s : String} {a : IPv4} : ofText? s = some a ↔ s = a.text := by
  rw [ofText?, ofChars?_eq_some_iff, text]
  exact ⟨fun h => by rw [← h, String.ofList_toList], fun h => by rw [h, String.toList_ofList]⟩

end IPv4

namespace IPv6

theorem ofGroups?_eq_none_of_length {gs : List Nat} (h : gs.length ≠ 8) : ofGroups? gs = none := by
  have hlength : (gs.flatMap (Bytes.ofNat 2)).length = 2 * gs.length :=
    Bytes.length_flatMap fun g _ => Bytes.length_ofNat 2 g
  rw [ofGroups?, dif_neg (by omega)]

theorem length_of_pieces?_singleton {piece : List Char} {gs : List Nat}
    (h : pieces? [piece] = some gs) : gs.length ≤ 2 := by
  rcases (Option.orElse_eq_some _ _ _).mp h with h | ⟨-, h⟩
  · obtain ⟨g, -, rfl⟩ := Option.map_eq_some_iff.mp h
    exact Nat.le_succ 1
  · obtain ⟨quad, -, rfl⟩ := Option.map_eq_some_iff.mp h
    rw [length_pairs, quad.length_octets]

/-- without a colon there are too few groups -/
theorem ofChars?_of_colon_notMem {cs : List Char} (h : ':' ∉ cs) : ofChars? cs = none := by
  have hcut : cutAtElision? cs = none := by
    have h' := cutAtElision?_append_of_notMem h []
    rwa [List.append_nil] at h'
  have hsplit : cs.splitOn ':' = [cs] := by
    have hpieces : ∀ piece ∈ [cs], ':' ∉ piece := by simpa using h
    have h' := List.splitOn_intercalate ':' hpieces (List.cons_ne_nil _ _)
    rwa [List.intercalate_singleton] at h'
  rw [ofChars?, hcut]
  show (groupsAndQuad? cs).bind ofGroups? = none
  rw [Option.bind_eq_none_iff]
  intro gs hgs
  apply ofGroups?_eq_none_of_length
  unfold groupsAndQuad? at hgs
  split at hgs
  next =>
    rw [← Option.some.inj hgs]
    exact Nat.zero_ne_add_one 7
  next =>
    rw [hsplit] at hgs
    have hlength := length_of_pieces?_singleton hgs
    omega

end IPv6

namespace Address

variable {s : String}

theorem ofText?_eq_v4_iff {a : IPv4} : ofText? s = some (v4 a) ↔ s = a.text := by
  rw [← IPv4.ofText?_eq_some_iff, ofText?, ofChars?, IPv4.ofText?]
  cases IPv4.ofChars? s.toList <;> simp

theorem ofText?_eq_v6_iff {a : IPv6} : ofText? s = some (v6 a) ↔ IPv6.ofText? s = some a := by
  rw [ofText?, ofChars?, IPv6.ofText?]
  cases h : IPv4.ofChars? s.toList with
  | none => simp
  | some quad =>
    have hcolon : ':' ∉ s.toList := by
      rw [IPv4.ofChars?_eq_some_iff.mp h]
      exact quad.colon_notMem_chars
    rw [IPv6.ofChars?_of_colon_notMem hcolon]
    simp

end Address

end RouteHealth
