import Mathlib.Tactic
import RouteHealth.RouteSet

/-!
# Parts of route sets

The addresses to advertise and the addresses to withdraw make up a set (`flagged_perm`), and so do its
two halves (`entries_lower_append_upper`).  What holds of the sets of at most one route, and of a set
whenever it holds of its halves, holds of every set (`halving_induction`).
-/

namespace RouteHealth.RouteSet

variable {r s : RouteSet}

theorem entries_singleton (e : Route) : (singleton e).entries = [e] := rfl

theorem size_singleton (e : Route) : (singleton e).size = 1 := rfl

theorem size_eq_zero_iff : r.size = 0 ↔ r.entries = [] := List.length_eq_zero_iff

theorem ascending_map_filter (r : RouteSet) (f : Route → Bool) :
    ((r.entries.filter f).map (·.1)).Pairwise (· < ·) :=
  List.pairwise_map.mpr (r.ascending.sublist List.filter_sublist)

theorem advertised_ascending (r : RouteSet) : r.advertised.Pairwise (· < ·) :=
  ascending_map_filter r _

theorem withdrawn_ascending (r : RouteSet) : r.withdrawn.Pairwise (· < ·) :=
  ascending_map_filter r _

theorem nodup_addresses (r : RouteSet) : (r.entries.map (·.1)).Nodup := by
  apply List.pairwise_map.mpr
  apply r.ascending.imp
  intro p q hpq heq
  rw [heq] at hpq
  exact Address.lt_irrefl q.1 hpq

/-- the first route with a property is the one of the least address -/
theorem find?_eq_some_iff {f : Route → Bool} {e : Route} :
    r.entries.find? f = some e
      ↔ e ∈ r.entries ∧ f e ∧ ∀ x ∈ r.entries, f x → x = e ∨ e.1 < x.1 := by
  have hfirst {e' : Route} (h : r.entries.find? f = some e') :
      ∀ x ∈ r.entries, f x → x = e' ∨ e'.1 < x.1 := by
    obtain ⟨-, before, after, hentries, hbefore⟩ := List.find?_eq_some_iff_append.mp h
    have hascending := r.ascending
    rw [hentries] at hascending
    intro x hx hfx
    rw [hentries] at hx
    rcases List.mem_append.mp hx with hx | hx
    · exact absurd hfx (by simpa using hbefore x hx)
    · rcases List.mem_cons.mp hx with rfl | hx
      · exact .inl rfl
      · exact .inr ((List.pairwise_cons.mp (List.pairwise_append.mp hascending).2.1).1 x hx)
  refine ⟨fun h => ⟨List.mem_of_find?_eq_some h, List.find?_some h, hfirst h⟩, ?_⟩
  rintro ⟨he, hfe, hleast⟩
  obtain ⟨e', he'⟩ := Option.isSome_iff_exists.mp (List.find?_isSome.mpr ⟨e, he, hfe⟩)
  -- two least routes are one route
  rcases hleast e' (List.mem_of_find?_eq_some he') (List.find?_some he') with heq | hlt
  · rw [he', heq]
  · rcases hfirst he' e he hfe with heq | hlt'
    · rw [he', heq]
    · exact absurd (Address.lt_trans hlt hlt') (Address.lt_irrefl e.1)

/-! ## routes by their flags -/

theorem map_filter_flag (flag : Bool) (ps : List Route) :
    ((ps.filter (·.2 = flag)).map (·.1)).map (fun a => (a, flag)) = ps.filter (·.2 = flag) := by
  have hsame : ∀ p ∈ ps.filter (·.2 = flag), ((fun a => (a, flag)) ∘ (·.1)) p = id p := by
    intro p hp
    have hflag : p.2 = flag := by simpa using (List.mem_filter.mp hp).2
    exact Prod.ext rfl hflag.symm
  rw [List.map_map, List.map_congr_left hsame, List.map_id]

theorem map_advertised (r : RouteSet) :
    r.advertised.map (fun a => (a, true)) = r.entries.filter (·.2) := by
  have h := map_filter_flag true r.entries
  simp only [Bool.decide_eq_true] at h
  exact h

theorem map_withdrawn (r : RouteSet) :
    r.withdrawn.map (fun a => (a, false)) = r.entries.filter fun p => !p.2 := by
  have h := map_filter_flag false r.entries
  simp only [Bool.decide_eq_false] at h
  exact h

/-- every route is advertised or withdrawn -/
theorem flagged_perm (r : RouteSet) :
    (r.advertised.map (fun a => (a, true)) ++ r.withdrawn.map (fun a => (a, false))).Perm
      r.entries := by
  rw [map_advertised, map_withdrawn]
  exact List.filter_append_perm _ _

theorem advertised_flatMap {rs : List RouteSet} (h : rs.flatMap entries = r.entries) :
    rs.flatMap advertised = r.advertised := by
  rw [advertised, ← h, List.filter_flatMap, List.map_flatMap]
  rfl

theorem withdrawn_flatMap {rs : List RouteSet} (h : rs.flatMap entries = r.entries) :
    rs.flatMap withdrawn = r.withdrawn := by
  rw [withdrawn, ← h, List.filter_flatMap, List.map_flatMap]
  rfl

theorem advertised_sublist (h : r.entries.Sublist s.entries) : r.advertised.Sublist s.advertised :=
  (h.filter _).map _

theorem withdrawn_sublist (h : r.entries.Sublist s.entries) : r.withdrawn.Sublist s.withdrawn :=
  (h.filter _).map _

/-! ## halves -/

theorem entries_lower_append_upper (r : RouteSet) : r.lower.entries ++ r.upper.entries = r.entries :=
  List.take_append_drop _ _

/-- from the sets of at most one route, and from halves to the whole -/
theorem halving_induction {motive : RouteSet → Prop} (small : ∀ r, r.size ≤ 1 → motive r)
    (halves : ∀ r, 1 < r.size → motive r.lower → motive r.upper → motive r) (r : RouteSet) :
    motive r := by
  induction hn : r.size using Nat.strongRecOn generalizing r with
  | ind n ih =>
    subst hn
    by_cases h : 1 < r.size
    · have hlower := r.size_lower
      have hupper := r.size_upper
      exact halves r h (ih _ (by omega) _ rfl) (ih _ (by omega) _ rfl)
    · exact small r (by omega)

end RouteHealth.RouteSet
