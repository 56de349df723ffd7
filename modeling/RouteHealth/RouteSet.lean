import RouteHealth.Address

/-!
# Route sets

A route set says of each of finitely many addresses whether its host route is to be advertised or
withdrawn.  It is kept as a list in strictly ascending address order, so two sets with the same
routes are the same set.  `RouteSet.get?` is the set as a map; the later of two flags given for one
address wins (`RouteSet.union`, `RouteSet.ofList`).
-/

namespace RouteHealth

/-- an address with its flag: `true` to advertise, `false` to withdraw -/
abbrev Route := Address × Bool

/-- routes in strictly ascending address order -/
structure RouteSet where
  entries : List Route
  ascending : entries.Pairwise fun p q => p.1 < q.1

namespace RouteSet

@[ext] theorem ext {r s : RouteSet} (h : r.entries = s.entries) : r = s := by
  cases r; cases s; simp_all

def empty : RouteSet := ⟨[], .nil⟩

def singleton (p : Route) : RouteSet := ⟨[p], List.pairwise_singleton _ p⟩

def size (r : RouteSet) : Nat := r.entries.length

def get? (r : RouteSet) (a : Address) : Option Bool := r.entries.lookup a

/-- the addresses to advertise, ascending -/
def advertised (r : RouteSet) : List Address := (r.entries.filter (·.2)).map (·.1)

/-- the addresses to withdraw, ascending -/
def withdrawn (r : RouteSet) : List Address := (r.entries.filter fun p => !p.2).map (·.1)

def erase (r : RouteSet) (a : Address) : RouteSet :=
  ⟨r.entries.filter (·.1 ≠ a), r.ascending.sublist List.filter_sublist⟩

/-! ## Union -/

/-- two ascending lists of routes as one; where both have an address, the second one's flag counts -/
def merge : List Route → List Route → List Route
  | [], qs => qs
  | p :: ps, [] => p :: ps
  | p :: ps, q :: qs =>
    if p.1 < q.1 then p :: merge ps (q :: qs)
    else if q.1 < p.1 then q :: merge (p :: ps) qs
    else q :: merge ps qs
  termination_by ps qs => ps.length + qs.length

/-- every address in a merge comes from one of the two lists -/
theorem mem_of_mem_merge {ps qs : List Route} {p : Route} (h : p ∈ merge ps qs) :
    p ∈ ps ∨ p ∈ qs := by
  fun_induction merge ps qs with grind

theorem merge_ascending {ps qs : List Route} (hp : ps.Pairwise fun p q => p.1 < q.1)
    (hq : qs.Pairwise fun p q => p.1 < q.1) : (merge ps qs).Pairwise fun p q => p.1 < q.1 := by
  fun_induction merge ps qs with
  | case1 qs => exact hq
  | case2 p ps => exact hp
  | case3 p ps q qs h ih =>
    have hp' := List.pairwise_cons.mp hp
    have hq' := List.pairwise_cons.mp hq
    refine List.pairwise_cons.mpr ⟨fun x hx => ?_, ih hp'.2 hq⟩
    rcases mem_of_mem_merge hx with hx | hx
    · exact hp'.1 x hx
    · rcases List.mem_cons.mp hx with rfl | hx
      · exact h
      · exact Address.lt_trans h (hq'.1 x hx)
  | case4 p ps q qs _ h ih =>
    have hp' := List.pairwise_cons.mp hp
    have hq' := List.pairwise_cons.mp hq
    refine List.pairwise_cons.mpr ⟨fun x hx => ?_, ih hp hq'.2⟩
    rcases mem_of_mem_merge hx with hx | hx
    · rcases List.mem_cons.mp hx with rfl | hx
      · exact h
      · exact Address.lt_trans h (hp'.1 x hx)
    · exact hq'.1 x hx
  | case5 p ps q qs hpq hqp ih =>
    have hp' := List.pairwise_cons.mp hp
    have hq' := List.pairwise_cons.mp hq
    have heq : p.1 = q.1 := by
      rcases Address.lt_trichotomy p.1 q.1 with h | h | h
      · exact absurd h hpq
      · exact h
      · exact absurd h hqp
    refine List.pairwise_cons.mpr ⟨fun x hx => ?_, ih hp'.2 hq'.2⟩
    rcases mem_of_mem_merge hx with hx | hx
    · exact heq ▸ hp'.1 x hx
    · exact hq'.1 x hx

/-- the routes of both sets; where both have an address, the second set's flag counts -/
def union (r s : RouteSet) : RouteSet :=
  ⟨merge r.entries s.entries, merge_ascending r.ascending s.ascending⟩

/-- the set of the routes in a list; the last flag given for an address counts -/
def ofList : List Route → RouteSet
  | [] => empty
  | [p] => singleton p
  | p :: q :: ps =>
    let routes := p :: q :: ps
    (ofList (routes.take (routes.length / 2))).union (ofList (routes.drop (routes.length / 2)))
  termination_by ps => ps.length
  decreasing_by
    · simp only [List.length_take, List.length_cons]; omega
    · simp only [List.length_drop, List.length_cons]; omega

/-! ## Halves -/

/-- the first half of the routes, rounded down -/
def lower (r : RouteSet) : RouteSet :=
  ⟨r.entries.take (r.size / 2), r.ascending.sublist (List.take_sublist _ _)⟩

def upper (r : RouteSet) : RouteSet :=
  ⟨r.entries.drop (r.size / 2), r.ascending.sublist (List.drop_sublist _ _)⟩

theorem size_lower (r : RouteSet) : r.lower.size = r.size / 2 := by
  simp only [lower, size, List.length_take]
  omega

theorem size_upper (r : RouteSet) : r.upper.size = r.size - r.size / 2 := by
  simp [upper, size]

end RouteSet

end RouteHealth
