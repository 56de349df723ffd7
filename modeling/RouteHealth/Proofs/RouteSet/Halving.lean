import RouteHealth.Proofs.RouteSet

/-!
# The halving tree of a route set

A set of routes is the root of a tree in which every set of two or more routes has its two halves below
it.  `RouteSet.halvingTree` lists the nodes, each with the sets above it.  Below some node are only nodes
that have it and what is above it among their ancestors (`ancestors_subset`), and a node other than the
root is a half of the nearest set above it (`eq_root_or_half`).
-/

namespace RouteHealth.RouteSet

/-- a node of a halving tree, with the sets above it, the nearest first -/
structure Node where
  routes : RouteSet
  ancestors : List RouteSet

/-- the nodes from a set downwards, where some sets are above it: the set itself, those of its lower
half, and those of its upper half -/
def nodesBelow (ancestors : List RouteSet) (r : RouteSet) : List Node :=
  ⟨r, ancestors⟩ ::
    if 1 < r.size then
      nodesBelow (r :: ancestors) r.lower ++ nodesBelow (r :: ancestors) r.upper
    else []
  termination_by r.size
  decreasing_by
    · rw [size_lower]; omega
    · rw [size_upper]; omega

/-- the nodes of the halving tree of a set -/
def halvingTree (r : RouteSet) : List Node := nodesBelow [] r

variable {r : RouteSet} {ancestors : List RouteSet}

theorem nodesBelow_of_small (h : r.size ≤ 1) (ancestors : List RouteSet) :
    nodesBelow ancestors r = [⟨r, ancestors⟩] := by
  rw [nodesBelow, if_neg (Nat.not_lt.mpr h)]

theorem nodesBelow_of_halves (h : 1 < r.size) (ancestors : List RouteSet) :
    nodesBelow ancestors r = ⟨r, ancestors⟩ ::
      (nodesBelow (r :: ancestors) r.lower ++ nodesBelow (r :: ancestors) r.upper) := by
  rw [nodesBelow, if_pos h]

/-- a node is the set itself or, if this is halved, a node of one of its halves -/
theorem mem_nodesBelow_iff {n : Node} : n ∈ nodesBelow ancestors r ↔ n = ⟨r, ancestors⟩
    ∨ 1 < r.size ∧ (n ∈ nodesBelow (r :: ancestors) r.lower ∨ n ∈ nodesBelow (r :: ancestors) r.upper)
    := by
  by_cases h : 1 < r.size
  · rw [nodesBelow_of_halves h, List.mem_cons, List.mem_append]
    simp only [h, true_and]
  · rw [nodesBelow_of_small (Nat.not_lt.mp h), List.mem_singleton]
    simp only [h, false_and, or_false]

theorem ancestors_subset {n : Node} (h : n ∈ nodesBelow ancestors r) : ancestors ⊆ n.ancestors := by
  induction r using halving_induction generalizing ancestors with
  | small r hr =>
    rw [nodesBelow_of_small hr, List.mem_singleton] at h
    rw [h]
    exact List.Subset.refl _
  | halves r _ hlower hupper =>
    rcases mem_nodesBelow_iff.mp h with rfl | ⟨-, h | h⟩
    · exact List.Subset.refl _
    · exact List.Subset.trans (List.subset_cons_self r ancestors) (hlower h)
    · exact List.Subset.trans (List.subset_cons_self r ancestors) (hupper h)

/-- some routes are the first half of others, rounded down, or the rest of them -/
def IsHalfOf (r s : RouteSet) : Prop :=
  r.entries = s.entries.take (s.size / 2) ∨ r.entries = s.entries.drop (s.size / 2)

theorem IsHalfOf.ne_nil {s : RouteSet} (h : r.IsHalfOf s) (hs : 1 < s.size) : r.entries ≠ [] := by
  have hsize : s.entries.length = s.size := rfl
  rw [ne_eq, ← List.length_eq_zero_iff]
  rcases h with h | h
  · rw [h, List.length_take]
    omega
  · rw [h, List.length_drop]
    omega

theorem eq_root_or_half {n : Node} (h : n ∈ nodesBelow ancestors r) : n = ⟨r, ancestors⟩
    ∨ ∃ parent above, n.ancestors = parent :: above ∧ 1 < parent.size ∧ n.routes.IsHalfOf parent := by
  induction r using halving_induction generalizing ancestors with
  | small r hr =>
    rw [nodesBelow_of_small hr, List.mem_singleton] at h
    exact .inl h
  | halves r hr hlower hupper =>
    rcases mem_nodesBelow_iff.mp h with rfl | ⟨-, h | h⟩
    · exact .inl rfl
    · rcases hlower h with rfl | hhalf
      · exact .inr ⟨r, ancestors, rfl, hr, .inl rfl⟩
      · exact .inr hhalf
    · rcases hupper h with rfl | hhalf
      · exact .inr ⟨r, ancestors, rfl, hr, .inr rfl⟩
      · exact .inr hhalf

/-! ## halves by the address in the middle -/

/-- the address at which two or more routes are cut, the one in the middle -/
def pivot? (r : RouteSet) : Option Address :=
  if 1 < r.size then (r.entries[r.size / 2]?).map (·.1) else none

/-- the routes of the addresses below one -/
def below (r : RouteSet) (pivot : Address) : RouteSet :=
  ⟨r.entries.filter (·.1 < pivot), r.ascending.sublist List.filter_sublist⟩

/-- the routes of an address and of those above it -/
def notBelow (r : RouteSet) (pivot : Address) : RouteSet :=
  ⟨r.entries.filter fun e => ¬e.1 < pivot, r.ascending.sublist List.filter_sublist⟩

variable {pivot : Address}

/-- two or more routes are cut, and no others -/
theorem exists_pivot?_iff : (∃ pivot, r.pivot? = some pivot) ↔ 1 < r.size := by
  unfold pivot?
  by_cases h : 1 < r.size
  · have hmiddle : r.size / 2 < r.entries.length := show r.size / 2 < r.size by omega
    rw [if_pos h, List.getElem?_eq_getElem hmiddle]
    exact iff_of_true ⟨_, rfl⟩ h
  · rw [if_neg h]
    exact iff_of_false (fun ⟨_, hnone⟩ => by cases hnone) h

theorem one_lt_size_of_pivot (h : r.pivot? = some pivot) : 1 < r.size :=
  exists_pivot?_iff.mp ⟨pivot, h⟩

/-- the upper half begins with the route of the pivot -/
theorem exists_upper_of_pivot (h : r.pivot? = some pivot) :
    ∃ flag rest, r.upper.entries = (pivot, flag) :: rest := by
  rw [pivot?, if_pos (one_lt_size_of_pivot h)] at h
  obtain ⟨e, he, rfl⟩ := Option.map_eq_some_iff.mp h
  obtain ⟨hmiddle, rfl⟩ := List.getElem?_eq_some_iff.mp he
  exact ⟨_, _, List.drop_eq_getElem_cons hmiddle⟩

theorem lt_pivot_of_mem_lower (h : r.pivot? = some pivot) : ∀ e ∈ r.lower.entries, e.1 < pivot := by
  obtain ⟨flag, rest, hupper⟩ := exists_upper_of_pivot h
  have hascending := r.ascending
  rw [← r.entries_lower_append_upper, hupper] at hascending
  intro e he
  exact (List.pairwise_append.mp hascending).2.2 e he _ (List.mem_cons_self ..)

theorem not_lt_pivot_of_mem_upper (h : r.pivot? = some pivot) :
    ∀ e ∈ r.upper.entries, ¬e.1 < pivot := by
  obtain ⟨flag, rest, hupper⟩ := exists_upper_of_pivot h
  have hascending := r.upper.ascending
  rw [hupper] at hascending ⊢
  intro e he hlt
  rcases List.mem_cons.mp he with rfl | he
  · exact Address.lt_irrefl pivot hlt
  · exact Address.lt_irrefl pivot
      (Address.lt_trans ((List.pairwise_cons.mp hascending).1 e he) hlt)

theorem below_pivot (h : r.pivot? = some pivot) : r.below pivot = r.lower := by
  have hlower : r.lower.entries.filter (·.1 < pivot) = r.lower.entries := by
    apply List.filter_eq_self.mpr
    intro e he
    exact decide_eq_true (lt_pivot_of_mem_lower h e he)
  have hupper : r.upper.entries.filter (·.1 < pivot) = [] := by
    apply List.filter_eq_nil_iff.mpr
    intro e he hlt
    exact not_lt_pivot_of_mem_upper h e he (of_decide_eq_true hlt)
  apply RouteSet.ext
  show r.entries.filter _ = _
  rw [← r.entries_lower_append_upper, List.filter_append, hlower, hupper, List.append_nil]

theorem notBelow_pivot (h : r.pivot? = some pivot) : r.notBelow pivot = r.upper := by
  have hlower : r.lower.entries.filter (fun e => ¬e.1 < pivot) = [] := by
    apply List.filter_eq_nil_iff.mpr
    intro e he hlt
    exact of_decide_eq_true hlt (lt_pivot_of_mem_lower h e he)
  have hupper : r.upper.entries.filter (fun e => ¬e.1 < pivot) = r.upper.entries := by
    apply List.filter_eq_self.mpr
    intro e he
    exact decide_eq_true (not_lt_pivot_of_mem_upper h e he)
  apply RouteSet.ext
  show r.entries.filter _ = _
  rw [← r.entries_lower_append_upper, List.filter_append, hlower, hupper, List.nil_append]

/-- a cut leaves half of the routes on either side -/
theorem size_cut (h : r.pivot? = some pivot) : (r.below pivot).size = r.size / 2
    ∧ (r.notBelow pivot).size = r.size - r.size / 2 := by
  rw [below_pivot h, notBelow_pivot h]
  exact ⟨r.size_lower, r.size_upper⟩

/-- half of two or more, rounded up or down, can be halved less often -/
theorem clog_half_lt {m n : Nat} (hn : 1 < n) (hm : m ≤ n - n / 2) : Nat.clog 2 m < Nat.clog 2 n := by
  have hhalf : Nat.clog 2 n = Nat.clog 2 ((n + 1) / 2) + 1 := Nat.clog_of_two_le Nat.one_lt_two hn
  have hle : Nat.clog 2 m ≤ Nat.clog 2 ((n + 1) / 2) := Nat.clog_mono_right 2 (by omega)
  omega

theorem clog_size_below_lt (h : r.pivot? = some pivot) :
    Nat.clog 2 (r.below pivot).size < Nat.clog 2 r.size := by
  rw [(size_cut h).1]
  exact clog_half_lt (one_lt_size_of_pivot h) (by omega)

theorem clog_size_notBelow_lt (h : r.pivot? = some pivot) :
    Nat.clog 2 (r.notBelow pivot).size < Nat.clog 2 r.size := by
  rw [(size_cut h).2]
  exact clog_half_lt (one_lt_size_of_pivot h) (Nat.le_refl _)

end RouteHealth.RouteSet
