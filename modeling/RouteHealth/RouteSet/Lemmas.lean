import RouteHealth.RouteSet

/-!
# Route sets as maps

What each operation on a route set does to `RouteSet.get?`.  In a union the second set's flag counts
(`get?_union`), in a list the last one given for an address (`get?_ofList`), and a set is determined
by its flags (`ext_get?`).
-/

namespace RouteHealth.RouteSet

theorem lookup_route (a : Address) (p : Route) (ps : List Route) :
    List.lookup a (p :: ps) = if a = p.1 then some p.2 else List.lookup a ps := by
  rw [List.lookup_cons]
  by_cases h : a = p.1
  · simp [h]
  · rw [if_neg h, show (a == p.1) = false from beq_eq_false_iff_ne.mpr h]

theorem lookup_eq_none_of_lt {a : Address} {ps : List Route} (h : ∀ p ∈ ps, a < p.1) :
    List.lookup a ps = none := by
  induction ps with
  | nil => rfl
  | cons p ps ih =>
    have hp : a ≠ p.1 := fun e => Address.lt_irrefl p.1 (e ▸ h p (List.mem_cons_self ..))
    rw [lookup_route, if_neg hp, ih fun q hq => h q (List.mem_cons_of_mem _ hq)]

theorem lookup_merge {ps qs : List Route} (hp : ps.Pairwise fun p q => p.1 < q.1)
    (hq : qs.Pairwise fun p q => p.1 < q.1) (a : Address) :
    List.lookup a (merge ps qs) = (List.lookup a qs).or (List.lookup a ps) := by
  fun_induction merge ps qs with
  | case1 qs => simp
  | case2 p ps => simp
  | case3 p ps q qs h ih =>
    have hp' := List.pairwise_cons.mp hp
    have hq' := List.pairwise_cons.mp hq
    rw [lookup_route, ih hp'.2 hq, lookup_route a p]
    by_cases hap : a = p.1
    · have hnone : List.lookup a (q :: qs) = none := lookup_eq_none_of_lt fun x hx => by
        rcases List.mem_cons.mp hx with rfl | hx
        · exact hap ▸ h
        · exact hap ▸ Address.lt_trans h (hq'.1 x hx)
      rw [if_pos hap, hnone, if_pos hap, Option.none_or]
    · rw [if_neg hap, if_neg hap]
  | case4 p ps q qs _ h ih =>
    have hq' := List.pairwise_cons.mp hq
    rw [lookup_route, ih hp hq'.2, lookup_route a q]
    by_cases haq : a = q.1 <;> simp [haq]
  | case5 p ps q qs hpq hqp ih =>
    have hp' := List.pairwise_cons.mp hp
    have hq' := List.pairwise_cons.mp hq
    have heq : p.1 = q.1 := by
      rcases Address.lt_trichotomy p.1 q.1 with h | h | h
      · exact absurd h hpq
      · exact h
      · exact absurd h hqp
    rw [lookup_route, ih hp'.2 hq'.2, lookup_route a q, lookup_route a p, heq]
    by_cases haq : a = q.1 <;> simp [haq]

theorem get?_union (r s : RouteSet) (a : Address) :
    (r.union s).get? a = (s.get? a).or (r.get? a) := lookup_merge r.ascending s.ascending a

theorem lookup_filter_ne (ps : List Route) (a b : Address) :
    List.lookup a (ps.filter (·.1 ≠ b)) = if a = b then none else List.lookup a ps := by
  induction ps with
  | nil => simp
  | cons p ps ih =>
    by_cases hpb : p.1 = b
    · rw [List.filter_cons_of_neg (by simpa using hpb), ih, lookup_route]
      by_cases hab : a = b <;> simp [hab, hpb]
    · rw [List.filter_cons_of_pos (by simpa using hpb), lookup_route, ih, lookup_route]
      by_cases hap : a = p.1
      · rw [if_pos hap, if_pos hap, if_neg (hap ▸ hpb)]
      · rw [if_neg hap, if_neg hap]

theorem get?_erase (r : RouteSet) (a b : Address) :
    (r.erase b).get? a = if a = b then none else r.get? a := lookup_filter_ne r.entries a b

/-- the flag of an address is the last one given for it -/
theorem get?_ofList (ps : List Route) (a : Address) :
    (ofList ps).get? a = List.lookup a ps.reverse := by
  fun_induction ofList ps with
  | case1 => rfl
  | case2 p => rfl
  | case3 p q ps routes ih₁ ih₂ =>
    rw [get?_union, ih₁, ih₂, ← List.lookup_append, ← List.reverse_append, List.take_append_drop]

theorem entries_eq_of_lookup_eq {ps qs : List Route} (hp : ps.Pairwise fun p q => p.1 < q.1)
    (hq : qs.Pairwise fun p q => p.1 < q.1) (h : ∀ a, List.lookup a ps = List.lookup a qs) :
    ps = qs := by
  induction ps generalizing qs with
  | nil =>
    cases qs with
    | nil => rfl
    | cons q qs => simpa [lookup_route] using h q.1
  | cons p ps ih =>
    cases qs with
    | nil => simpa [lookup_route] using h p.1
    | cons q qs =>
      have hp' := List.pairwise_cons.mp hp
      have hq' := List.pairwise_cons.mp hq
      have above {x y : Route} {ys : List Route} (hxy : x.1 < y.1) (hys : ∀ z ∈ ys, y.1 < z.1) :
          List.lookup x.1 (y :: ys) = none := lookup_eq_none_of_lt fun z hz => by
        rcases List.mem_cons.mp hz with rfl | hz
        · exact hxy
        · exact Address.lt_trans hxy (hys z hz)
      have hpp : List.lookup p.1 (p :: ps) = some p.2 := by rw [lookup_route, if_pos rfl]
      have hqq : List.lookup q.1 (q :: qs) = some q.2 := by rw [lookup_route, if_pos rfl]
      rcases Address.lt_trichotomy p.1 q.1 with hlt | heq | hgt
      · have := h p.1
        rw [hpp, above hlt hq'.1] at this
        cases this
      · have hflag := h p.1
        rw [hpp, heq, hqq] at hflag
        have hpq : p = q := Prod.ext heq (Option.some.inj hflag)
        subst hpq
        rw [ih hp'.2 hq'.2 fun a => ?_]
        by_cases ha : a = p.1
        · rw [ha, lookup_eq_none_of_lt hp'.1, lookup_eq_none_of_lt hq'.1]
        · simpa [lookup_route, ha] using h a
      · have := h q.1
        rw [hqq, above hgt hp'.1] at this
        cases this

theorem ext_get? {r s : RouteSet} (h : ∀ a, r.get? a = s.get? a) : r = s :=
  ext (entries_eq_of_lookup_eq r.ascending s.ascending h)

end RouteHealth.RouteSet
