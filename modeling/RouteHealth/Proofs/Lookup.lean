import Mathlib.Tactic

/-!
# Looking up a key in a list

What is found for a key is in the list, and something is found for every key that is in it.  Where no key
is repeated, a value is found exactly if it is there (`lookup_eq_some_iff_mem`).  A list that is turned
around gives the last item with a property (`find?_reverse_eq_some_iff`).
-/

namespace RouteHealth

variable {α β : Type} {key : α} {value : β} {ps : List (α × β)}

/-- two values of one key are one value -/
theorem value_unique {v : β} (hnodup : (ps.map Prod.fst).Nodup) (hvalue : (key, value) ∈ ps)
    (hv : (key, v) ∈ ps) : v = value := by
  have h := List.inj_on_of_nodup_map hnodup hv hvalue rfl
  exact (Prod.mk.inj h).2

/-- from its end a list gives the last item with a property -/
theorem find?_reverse_eq_some_iff {xs : List α} {x : α} {f : α → Bool} :
    xs.reverse.find? f = some x
      ↔ f x ∧ ∃ before after, xs = before ++ x :: after ∧ ∀ y ∈ after, ¬f y := by
  rw [List.find?_eq_some_iff_append]
  apply and_congr_right
  intro _
  constructor
  · rintro ⟨after, before, hxs, hafter⟩
    refine ⟨before.reverse, after.reverse, ?_, ?_⟩
    · rw [← List.reverse_reverse xs, hxs, List.reverse_append, List.reverse_cons, List.append_assoc]
      rfl
    · intro y hy
      simpa using hafter y (List.mem_reverse.mp hy)
  · rintro ⟨before, after, rfl, hafter⟩
    refine ⟨after.reverse, before.reverse, ?_, ?_⟩
    · rw [List.reverse_append, List.reverse_cons, List.append_assoc]
      rfl
    · intro y hy
      simpa using hafter y (List.mem_reverse.mp hy)

variable [BEq α] [LawfulBEq α]

theorem mem_of_lookup (h : ps.lookup key = some value) : (key, value) ∈ ps := by
  obtain ⟨front, back, rfl, -⟩ := List.lookup_eq_some_iff.mp h
  exact List.mem_append_right front (List.mem_cons_self ..)

theorem lookup_eq_none (h : key ∉ ps.map Prod.fst) : ps.lookup key = none := by
  apply List.lookup_eq_none_iff.mpr
  rintro ⟨key', v⟩ hmem
  rw [bne_iff_ne]
  rintro rfl
  exact h (List.mem_map_of_mem hmem)

theorem exists_lookup (h : key ∈ ps.map Prod.fst) : ∃ v, ps.lookup key = some v := by
  obtain ⟨⟨key', v⟩, hmem, rfl⟩ := List.mem_map.mp h
  exact Option.isSome_iff_exists.mp
    (List.lookup_isSome_iff.mpr ⟨(key', v), hmem, beq_self_eq_true key'⟩)

theorem lookup_of_mem (hnodup : (ps.map Prod.fst).Nodup) (h : (key, value) ∈ ps) :
    ps.lookup key = some value := by
  obtain ⟨v, hv⟩ := exists_lookup (List.mem_map_of_mem h)
  rw [hv, value_unique hnodup h (mem_of_lookup hv)]

theorem lookup_eq_some_iff_mem (hnodup : (ps.map Prod.fst).Nodup) :
    ps.lookup key = some value ↔ (key, value) ∈ ps :=
  ⟨mem_of_lookup, lookup_of_mem hnodup⟩

end RouteHealth
