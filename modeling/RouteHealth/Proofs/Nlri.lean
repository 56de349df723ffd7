import Mathlib.Tactic
import RouteHealth.Nlri
import RouteHealth.Proofs.Bytes

/-!
# Streams of host routes and back

Reading a run of records of one family gives exactly the addresses that were written, in their order
and with their repetitions (`read?_flatMap_record`); `read?_stream` is the same for the stream that
picks the addresses of one family out of a list.
-/

namespace RouteHealth

theorem Address.ofOctets?_octets (a : Address) : ofOctets? a.family a.octets = some a := by
  cases a with
  | v4 a => exact dif_pos a.length_octets
  | v6 a => exact dif_pos a.length_octets

namespace Nlri

theorem length_record (a : Address) : (record a).length = a.family.octetCount + 1 := by
  rw [record, List.length_cons, a.length_octets]

theorem length_flatMap_record {family : Afi} {as : List Address} (h : ∀ a ∈ as, a.family = family) :
    (as.flatMap record).length = (family.octetCount + 1) * as.length := by
  apply Bytes.length_flatMap
  intro a ha
  rw [length_record, h a ha]

theorem toNat_hostLength (family : Afi) : family.hostLength.toNat = addressBits family := by
  cases family <;> rfl

theorem addressBits_div_eight (family : Afi) : addressBits family / 8 = family.octetCount := by
  cases family <;> rfl

theorem read?_record_append (a : Address) (rest : Bytes) :
    read? a.family (record a ++ rest) = (read? a.family rest).map (a :: ·) := by
  have ha := a.length_octets
  rw [record, List.cons_append, read?, toNat_hostLength, if_pos rfl, addressBits_div_eight,
    List.take_left' ha, List.drop_left' ha, a.ofOctets?_octets]
  cases read? a.family rest <;> rfl

theorem read?_flatMap_record {family : Afi} {as : List Address} (h : ∀ a ∈ as, a.family = family) :
    read? family (as.flatMap record) = some as := by
  induction as with
  | nil => rw [List.flatMap_nil, read?]
  | cons a as ih =>
    have ha := h a (List.mem_cons_self ..)
    subst ha
    rw [List.flatMap_cons, read?_record_append, ih fun b hb => h b (List.mem_cons_of_mem _ hb),
      Option.map_some]

/-! ## the addresses of one family -/

def ofFamily (family : Afi) (as : List Address) : List Address := as.filter (·.family = family)

theorem stream_eq (family : Afi) (as : List Address) :
    stream family as = (ofFamily family as).flatMap record := rfl

theorem family_of_mem_ofFamily {family : Afi} {as : List Address} :
    ∀ a ∈ ofFamily family as, a.family = family := by
  intro a ha
  simpa using (List.mem_filter.mp ha).2

theorem read?_stream (family : Afi) (as : List Address) :
    read? family (stream family as) = some (ofFamily family as) :=
  read?_flatMap_record family_of_mem_ofFamily

theorem length_stream (family : Afi) (as : List Address) :
    (stream family as).length = (family.octetCount + 1) * (ofFamily family as).length :=
  length_flatMap_record family_of_mem_ofFamily

theorem stream_eq_nil_iff (family : Afi) (as : List Address) :
    stream family as = [] ↔ ofFamily family as = [] := by
  rw [← List.length_eq_zero_iff, length_stream, ← List.length_eq_zero_iff, Nat.mul_eq_zero]
  omega

theorem stream_flatMap {α : Type} (family : Afi) (f : α → List Address) (xs : List α) :
    stream family (xs.flatMap f) = xs.flatMap fun x => stream family (f x) := by
  rw [stream, List.filter_flatMap, List.flatMap_assoc]
  rfl

theorem ofFamily_perm (as : List Address) :
    (ofFamily .ipv4 as ++ ofFamily .ipv6 as).Perm as := by
  have h : ofFamily .ipv6 as = as.filter fun a => !decide (a.family = .ipv4) := by
    refine List.filter_congr fun a _ => ?_
    cases a <;> rfl
  rw [h]
  exact List.filter_append_perm _ as

end Nlri

end RouteHealth
