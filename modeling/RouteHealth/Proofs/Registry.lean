import Mathlib.Tactic
import RouteHealth.Registry

/-!
# Numbers and what they are registered as

An open registry keeps every number: what a number is read as has that number as its code
(`OpenRegistry.octet_ofCode`).  In the other direction a member comes back from its code unless it is an
unknown one and its number is assigned (`OpenRegistry.ofCode_octet_iff`).  Both hold of every open
registry whose table is in order (`LawfulOpenRegistry`).
-/

namespace RouteHealth

/-- the numbers with an assigned member -/
def Registry.assigned (α : Type) [Registry α] : List Nat := (Registry.members : List α).map Registry.code

/-- an open registry whose members have a number each, and all others are the unknown ones -/
class LawfulOpenRegistry (α : Type) [OpenRegistry α] : Prop where
  mem_members_iff : ∀ a, a ∈ (Registry.members : List α) ↔ ∀ n, a ≠ OpenRegistry.unknown n := by
    intro a; cases a <;> simp [Registry.members, OpenRegistry.unknown]
  code_unknown : ∀ n, Registry.code (OpenRegistry.unknown n : α) = n.toNat := by intro n; rfl
  code_le : ∀ a ∈ (Registry.members : List α), Registry.code a ≤ 255 := by decide
  ofCode?_code : ∀ a ∈ (Registry.members : List α), Registry.ofCode? (Registry.code a) = some a := by
    decide

namespace Registry

variable {α : Type} [Registry α] {n : Nat}

theorem mem_members_of_ofCode? {a : α} (h : ofCode? n = some a) : a ∈ (members : List α) :=
  List.mem_of_find?_eq_some h

theorem ofCode?_eq_none_iff : (ofCode? n : Option α) = none ↔ n ∉ assigned α := by
  simp only [ofCode?, assigned, List.find?_eq_none, List.mem_map, not_exists, not_and, beq_iff_eq]

end Registry

namespace OpenRegistry

open LawfulOpenRegistry

variable {α : Type} [OpenRegistry α] [LawfulOpenRegistry α]

theorem octet_unknown (n : UInt8) : octet (unknown n : α) = n := by
  rw [octet, code_unknown, UInt8.ofNat_toNat]

theorem toNat_octet {a : α} (h : a ∈ (Registry.members : List α)) :
    (octet a).toNat = Registry.code a := by
  have hle := code_le a h
  rw [octet, UInt8.toNat_ofNat']
  exact Nat.mod_eq_of_lt (by omega)

/-- every number is kept -/
theorem octet_ofCode (n : UInt8) : octet (ofCode n : α) = n := by
  rw [ofCode]
  cases h : (Registry.ofCode? n.toNat : Option α) with
  | none => exact octet_unknown n
  | some a =>
    rw [Option.getD_some, octet, Registry.code_of_ofCode? h, UInt8.ofNat_toNat]

/-- a member is kept unless it is an unknown one for a number that is assigned -/
theorem ofCode_octet_iff (a : α) :
    ofCode (octet a) = a ↔ ¬∃ n, a = unknown n ∧ n.toNat ∈ Registry.assigned α := by
  by_cases hmem : a ∈ (Registry.members : List α)
  · have hcode : ofCode (octet a) = a := by
      rw [ofCode, toNat_octet hmem, ofCode?_code a hmem, Option.getD_some]
    apply iff_of_true hcode
    rintro ⟨n, hn, -⟩
    exact (mem_members_iff a).mp hmem n hn
  · obtain ⟨n, rfl⟩ : ∃ n, a = unknown n := by
      by_contra hknown
      exact hmem ((mem_members_iff a).mpr (not_exists.mp hknown))
    rw [octet_unknown, ofCode]
    cases h : (Registry.ofCode? n.toNat : Option α) with
    | none =>
      apply iff_of_true (Option.getD_none ..)
      rintro ⟨m, hm, hassigned⟩
      have hnm : n = m := by rw [← octet_unknown (α := α) n, hm, octet_unknown]
      exact Registry.ofCode?_eq_none_iff.mp h (hnm ▸ hassigned)
    | some b =>
      have hb : b ∈ (Registry.members : List α) := Registry.mem_members_of_ofCode? h
      apply iff_of_false
      · exact (mem_members_iff b).mp hb n
      · rw [not_not]
        refine ⟨n, rfl, ?_⟩
        rw [← Registry.code_of_ofCode? h]
        exact List.mem_map_of_mem hb

end OpenRegistry

end RouteHealth
