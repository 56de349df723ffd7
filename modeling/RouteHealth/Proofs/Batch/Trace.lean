import RouteHealth.Proofs.Batch.Conservation
import RouteHealth.Proofs.Batch.Failure
import RouteHealth.Proofs.Update.Count

/-!
# How taking routes apart ends

`Policy.TakenApart` has the rules by which routes are taken apart, with no bound on how often: a set is
cut at the address in the middle, and the routes from there on are looked at only after those below it
succeeded.  Every set has one trace by these rules, which is `Policy.splitting`
(`Policy.takenApart_iff`).  What holds of a trace is shown by induction on the rules: how deep it is,
how many splits it has, and that it is a full binary tree with a leaf for each body if it succeeds.
`Policy.takenApart_ends` adds what of this an operator is told.
-/

namespace RouteHealth

/-! ## splits and full trees -/

/-- the record of a split -/
inductive Event.IsSplit : Event → Prop
  | longBody (size routes : Nat) : IsSplit (.longBodySplit size routes)
  | failure (routes : Nat) (cause : RenderError) : IsSplit (.failureSplit routes cause)

theorem Event.IsSplit.level_eq {e : Event} (h : e.IsSplit) : e.level = .debug := by
  cases h with
  | longBody size routes => rfl
  | failure routes cause => rfl

theorem Policy.isSplit_splitEvent (routes : Nat) (rendered : Except RenderError Bytes) :
    (splitEvent routes rendered).IsSplit := by
  cases rendered with
  | ok body => exact .longBody body.length routes
  | error cause => exact .failure routes cause

namespace Splitting

/-- every split has a tree below it on either side, and every leaf is a body -/
def IsFull : Splitting → Prop
  | whole _ => True
  | stuck _ => False
  | lowerFailed _ _ => False
  | halves _ lower upper => lower.IsFull ∧ upper.IsFull

theorem bodies_halves_eq_ok_iff {split : Event} {lower upper : Splitting} {bodies : List Bytes} :
    (halves split lower upper).bodies = .ok bodies ↔ ∃ front back, lower.bodies = .ok front
      ∧ upper.bodies = .ok back ∧ bodies = front ++ back := by
  rw [Splitting.bodies]
  cases lower.bodies with
  | error cause =>
    constructor
    · intro h
      cases h
    · rintro ⟨_, _, h, -⟩
      cases h
  | ok front =>
    cases upper.bodies with
    | error cause =>
      constructor
      · intro h
        cases h
      · rintro ⟨_, _, -, h, -⟩
        cases h
    | ok back =>
      constructor
      · intro h
        exact ⟨front, back, rfl, rfl, (Except.ok.inj h).symm⟩
      · rintro ⟨_, _, hfront, hback, rfl⟩
        rw [← Except.ok.inj hfront, ← Except.ok.inj hback]
        rfl

/-- a full binary tree has one leaf more than it has inner nodes -/
theorem IsFull.length_bodies {t : Splitting} {bodies : List Bytes} (h : t.IsFull)
    (hbodies : t.bodies = .ok bodies) : bodies.length = t.events.length + 1 := by
  induction t generalizing bodies with
  | whole body =>
    obtain rfl := Except.ok.inj hbodies
    rfl
  | stuck cause => exact h.elim
  | lowerFailed split lower _ => exact h.elim
  | halves split lower upper ihlower ihupper =>
    obtain ⟨front, back, hfront, hback, rfl⟩ := bodies_halves_eq_ok_iff.mp hbodies
    have hl := ihlower h.1 hfront
    have hu := ihupper h.2 hback
    show _ = (split :: lower.events ++ upper.events).length + 1
    rw [List.length_append, List.length_append, List.length_cons]
    omega

end Splitting

namespace Policy

variable {p : Policy} {r : RouteSet} {t : Splitting}

/-! ## the rules -/

/-- the rules by which routes are taken apart -/
inductive TakenApart (p : Policy) : RouteSet → Splitting → Prop
  /-- routes with a short body are a message -/
  | whole {r : RouteSet} {body : Bytes} (hbody : p.render r = .ok body)
    (hshort : body.length < 4000) : TakenApart p r (.whole body)
  /-- one route alone is not cut -/
  | stuck {e : Route} (hlong : ¬p.Sendable (.singleton e)) :
    TakenApart p (.singleton e) (.stuck (misfit e.1 (p.render (.singleton e))))
  /-- the routes below the pivot failed -/
  | lowerFailed {r : RouteSet} {pivot : Address} {lower : Splitting} {cause : RenderError}
    (hlong : ¬p.Sendable r) (hpivot : r.pivot? = some pivot)
    (hlower : TakenApart p (r.below pivot) lower) (hfailed : lower.bodies = .error cause) :
    TakenApart p r (.lowerFailed (splitEvent r.size (p.render r)) lower)
  /-- the routes below the pivot succeeded, and the others are taken apart as well -/
  | halves {r : RouteSet} {pivot : Address} {lower upper : Splitting} {front : List Bytes}
    (hlong : ¬p.Sendable r) (hpivot : r.pivot? = some pivot)
    (hlower : TakenApart p (r.below pivot) lower) (hfront : lower.bodies = .ok front)
    (hupper : TakenApart p (r.notBelow pivot) upper) :
    TakenApart p r (.halves (splitEvent r.size (p.render r)) lower upper)

/-- every set has a trace -/
theorem takenApart_splitting (p : Policy) (r : RouteSet) : p.TakenApart r (p.splitting r) := by
  induction r using p.splitting_induction with
  | fits r hfits =>
    rw [splitting_of_fits hfits]
    exact .whole (render_of_bodyLength_lt hfits) hfits
  | alone e hfits =>
    rw [splitting_singleton hfits]
    exact .stuck (mt (p.sendable_iff _).mp hfits)
  | halves r hfits hsize hlower hupper =>
    have hlong : ¬p.Sendable r := mt (p.sendable_iff r).mp hfits
    obtain ⟨pivot, hpivot⟩ := RouteSet.exists_pivot?_iff.mpr hsize
    rw [← RouteSet.below_pivot hpivot] at hlower
    rw [← RouteSet.notBelow_pivot hpivot] at hupper
    rw [splitting_of_halves hfits hsize, ← RouteSet.below_pivot hpivot,
      ← RouteSet.notBelow_pivot hpivot]
    cases hbodies : (p.splitting (r.below pivot)).bodies with
    | error cause => exact .lowerFailed hlong hpivot hlower hbodies
    | ok front => exact .halves hlong hpivot hlower hbodies hupper

namespace TakenApart

/-- no set has another trace -/
theorem eq_splitting (h : p.TakenApart r t) : t = p.splitting r := by
  -- the rules tell the halves by the pivot, the function by their place among the routes
  induction h with
  | @whole r body hbody hshort =>
    have hfits : p.bodyLength r < bodyBound := (p.sendable_iff r).mp ⟨body, hbody, hshort⟩
    rw [render_of_bodyLength_lt hfits] at hbody
    rw [splitting_of_fits hfits, Except.ok.inj hbody]
  | stuck hlong => exact (splitting_singleton (mt (p.sendable_iff _).mpr hlong)).symm
  | @lowerFailed r pivot lower cause hlong hpivot _ hfailed hlower =>
    have hfits : ¬p.bodyLength r < bodyBound := mt (p.sendable_iff r).mpr hlong
    rw [RouteSet.below_pivot hpivot] at hlower
    subst hlower
    rw [splitting_of_halves hfits (RouteSet.one_lt_size_of_pivot hpivot)]
    simp only [hfailed]
  | @halves r pivot lower upper front hlong hpivot _ hfront _ hlower hupper =>
    have hfits : ¬p.bodyLength r < bodyBound := mt (p.sendable_iff r).mpr hlong
    rw [RouteSet.below_pivot hpivot] at hlower
    rw [RouteSet.notBelow_pivot hpivot] at hupper
    subst hlower hupper
    rw [splitting_of_halves hfits (RouteSet.one_lt_size_of_pivot hpivot)]
    simp only [hfront]

/-- splits are not nested deeper than the logarithm of the number of routes -/
theorem depth_le (h : p.TakenApart r t) : t.depth ≤ Nat.clog 2 r.size := by
  induction h with
  | whole hbody hshort => exact Nat.zero_le _
  | stuck hlong => exact Nat.zero_le _
  | @lowerFailed r pivot lower cause hlong hpivot _ hfailed hlower =>
    have hless := RouteSet.clog_size_below_lt hpivot
    show lower.depth + 1 ≤ _
    omega
  | @halves r pivot lower upper front hlong hpivot _ hfront _ hlower hupper =>
    have hless := RouteSet.clog_size_below_lt hpivot
    have hless' := RouteSet.clog_size_notBelow_lt hpivot
    show max lower.depth upper.depth + 1 ≤ _
    omega

/-- there are fewer splits than routes -/
theorem length_events_lt (h : p.TakenApart r t) (hr : 0 < r.size) : t.events.length < r.size := by
  induction h with
  | whole hbody hshort => exact hr
  | stuck hlong => exact hr
  | @lowerFailed r pivot lower cause hlong hpivot _ hfailed hlower =>
    have hsize := RouteSet.one_lt_size_of_pivot hpivot
    obtain ⟨hbelow, -⟩ := RouteSet.size_cut hpivot
    have hlt := hlower (by omega)
    show (_ :: lower.events).length < _
    rw [List.length_cons]
    omega
  | @halves r pivot lower upper front hlong hpivot _ hfront _ hlower hupper =>
    have hsize := RouteSet.one_lt_size_of_pivot hpivot
    obtain ⟨hbelow, hnotBelow⟩ := RouteSet.size_cut hpivot
    have hlt := hlower (by omega)
    have hlt' := hupper (by omega)
    show (_ :: lower.events ++ upper.events).length < _
    rw [List.length_append, List.length_cons]
    omega

theorem isSplit_of_mem_events (h : p.TakenApart r t) : ∀ e ∈ t.events, e.IsSplit := by
  induction h with
  | whole hbody hshort => exact fun e he => absurd he List.not_mem_nil
  | stuck hlong => exact fun e he => absurd he List.not_mem_nil
  | lowerFailed hlong hpivot _ hfailed hlower =>
    exact List.forall_mem_cons.mpr ⟨isSplit_splitEvent _ _, hlower⟩
  | halves hlong hpivot _ hfront _ hlower hupper =>
    refine List.forall_mem_cons.mpr ⟨isSplit_splitEvent _ _, ?_⟩
    exact List.forall_mem_append.mpr ⟨hlower, hupper⟩

/-- a trace without a failure has both sides of every split -/
theorem isFull {bodies : List Bytes} (h : p.TakenApart r t) (hbodies : t.bodies = .ok bodies) :
    t.IsFull := by
  induction h generalizing bodies with
  | whole hbody hshort => trivial
  | stuck hlong => cases hbodies
  | @lowerFailed r pivot lower cause hlong hpivot _ hfailed hlower =>
    replace hbodies : lower.bodies = .ok bodies := hbodies
    rw [hfailed] at hbodies
    cases hbodies
  | @halves r pivot lower upper front hlong hpivot _ hfront _ hlower hupper =>
    obtain ⟨front', back, hfront', hback, -⟩ := Splitting.bodies_halves_eq_ok_iff.mp hbodies
    exact ⟨hlower hfront', hupper hback⟩

end TakenApart

theorem takenApart_iff (p : Policy) (r : RouteSet) (t : Splitting) :
    p.TakenApart r t ↔ t = p.splitting r := by
  refine ⟨TakenApart.eq_splitting, ?_⟩
  rintro rfl
  exact p.takenApart_splitting r

/-! ## what an operator sees -/

theorem batchEvents_of_ok {ms : List Message} (hr : r.entries ≠ []) (h : p.renderBatch r = .ok ms) :
    p.batchEvents r = (p.splitting r).events := by
  obtain ⟨bodies, hbodies, -⟩ := exists_bodies_of_renderBatch hr h
  have hsize : ¬r.size = 0 := mt RouteSet.size_eq_zero_iff.mp hr
  simp only [batchEvents, if_neg hsize, hbodies, List.append_nil]

theorem batchEvents_of_error {cause : RenderError} (hr : r.entries ≠ [])
    (h : p.renderBatch r = .error cause) :
    p.batchEvents r = (p.splitting r).events ++ [.batchFailed r.size cause] := by
  have hbodies := bodies_of_renderBatch_eq_error hr h
  have hsize : ¬r.size = 0 := mt RouteSet.size_eq_zero_iff.mp hr
  simp only [batchEvents, if_neg hsize, hbodies]

/-- **Taking routes apart ends, and its trace is a full binary tree.**  A set has one trace by the
rules, in which splits are nested no deeper than the logarithm of its size, rounded up; every cut leaves
some of the routes, but not all of them, on either side.  A batch with `m` messages has a full trace with
`m - 1` splits, and nothing but these is recorded.  A batch that fails is recorded once, after its
splits. -/
theorem takenApart_ends (p : Policy) (r : RouteSet) (hr : 1 ≤ r.size) :
    (∀ t, p.TakenApart r t ↔ t = p.splitting r)
      ∧ (p.splitting r).depth ≤ Nat.clog 2 r.size
      ∧ (∀ (s : RouteSet) (pivot : Address), s.pivot? = some pivot →
        (0 < (s.below pivot).size ∧ (s.below pivot).size < s.size)
          ∧ 0 < (s.notBelow pivot).size ∧ (s.notBelow pivot).size < s.size)
      ∧ (∀ ms, p.renderBatch r = .ok ms → (p.splitting r).IsFull
        ∧ (1 ≤ ms.length ∧ ms.length ≤ r.size)
        ∧ (p.batchEvents r).length = ms.length - 1
        ∧ ∀ e ∈ p.batchEvents r, e.IsSplit ∧ e.level = .debug)
      ∧ ∀ cause, p.renderBatch r = .error cause →
        ∃ splits, p.batchEvents r = splits ++ [.batchFailed r.size cause]
          ∧ (∀ e ∈ splits, e.IsSplit ∧ e.level = .debug)
          ∧ (Event.batchFailed r.size cause).level = .warn := by
  have htrace := p.takenApart_splitting r
  have hne : r.entries ≠ [] := by
    intro hnil
    rw [RouteSet.size_eq_zero_iff.mpr hnil] at hr
    omega
  have hsplits : ∀ e ∈ (p.splitting r).events, e.IsSplit ∧ e.level = .debug := by
    intro e he
    have hsplit := htrace.isSplit_of_mem_events e he
    exact ⟨hsplit, hsplit.level_eq⟩
  refine ⟨p.takenApart_iff r, htrace.depth_le, ?_, ?_, ?_⟩
  · intro s pivot hpivot
    have hsize := RouteSet.one_lt_size_of_pivot hpivot
    obtain ⟨hbelow, hnotBelow⟩ := RouteSet.size_cut hpivot
    omega
  · intro ms hms
    obtain ⟨bodies, hbodies, rfl⟩ := exists_bodies_of_renderBatch hne hms
    have hfull := htrace.isFull hbodies
    have hcount := hfull.length_bodies hbodies
    have hfew := htrace.length_events_lt hr
    rw [batchEvents_of_ok hne hms, List.length_map]
    exact ⟨hfull, ⟨by omega, by omega⟩, by omega, hsplits⟩
  · intro cause hcause
    exact ⟨_, batchEvents_of_error hne hcause, hsplits, rfl⟩

/-- three routes that each fit alone are three messages after two splits, one inside the other; where no
route has a body they fail after one split -/
theorem takenApart_ends_three :
    (∃ ms, (crowdedPolicy 991).renderBatch threeRoutes = .ok ms ∧ ms.length = 3
      ∧ ((crowdedPolicy 991).splitting threeRoutes).IsFull
      ∧ ((crowdedPolicy 991).splitting threeRoutes).depth = Nat.clog 2 3
      ∧ ((crowdedPolicy 991).batchEvents threeRoutes).map Event.level = [.debug, .debug])
    ∧ (crowdedPolicy 16384).renderBatch threeRoutes
      = .error (.attributeTooLarge .communities 65536)
    ∧ ((crowdedPolicy 16384).splitting threeRoutes).depth ≤ Nat.clog 2 3
    ∧ ∃ splits, (crowdedPolicy 16384).batchEvents threeRoutes
        = splits ++ [.batchFailed 3 (.attributeTooLarge .communities 65536)]
      ∧ ∀ e ∈ splits, e.IsSplit ∧ e.level = .debug := by
  have hsize : 1 ≤ threeRoutes.size := by decide
  have hne : threeRoutes.entries ≠ [] := by decide
  constructor
  · obtain ⟨-, -, -, hsucceeds, -⟩ := takenApart_ends (crowdedPolicy 991) threeRoutes hsize
    have hfits (s : RouteSet) (h : s.count true .ipv4 ≠ 0 ∧ s.count true .ipv6 = 0
        ∧ s.count false .ipv4 = 0 ∧ s.count false .ipv6 = 0) :
        (crowdedPolicy 991).bodyLength s < bodyBound ↔ s.count true .ipv4 = 1 := by
      obtain ⟨hsome, hreachable, hwithdrawn, hunreachable⟩ := h
      rw [bodyLength_crowdedPolicy (by decide) hsome hreachable hwithdrawn hunreachable, bodyBound]
      omega
    have hlong := mt (hfits threeRoutes (by decide)).mp (by decide)
    have hlower := (hfits threeRoutes.lower (by decide)).mpr (by decide)
    have hupper := mt (hfits threeRoutes.upper (by decide)).mp (by decide)
    have hsecond := (hfits threeRoutes.upper.lower (by decide)).mpr (by decide)
    have hthird := (hfits threeRoutes.upper.upper (by decide)).mpr (by decide)
    obtain ⟨split, split', first, second, third, hsplitting⟩ : ∃ split split' first second third,
        (crowdedPolicy 991).splitting threeRoutes
          = .halves split (.whole first) (.halves split' (.whole second) (.whole third)) := by
      rw [splitting_of_halves hlong (by decide), splitting_of_fits hlower,
        splitting_of_halves hupper (by decide), splitting_of_fits hsecond, splitting_of_fits hthird]
      exact ⟨_, _, _, _, _, rfl⟩
    have hms : (crowdedPolicy 991).renderBatch threeRoutes
        = .ok [.update first, .update second, .update third] := by
      rw [renderBatch_of_ne_nil hne, hsplitting]
      rfl
    have hevents : (crowdedPolicy 991).batchEvents threeRoutes = [split, split'] := by
      rw [batchEvents_of_ok hne hms, hsplitting]
      rfl
    obtain ⟨hfull, -, -, hsplits⟩ := hsucceeds _ hms
    rw [hevents] at hsplits ⊢
    refine ⟨_, hms, rfl, hfull, ?_, ?_⟩
    · rw [hsplitting]
      show 2 = Nat.clog 2 3
      decide
    · rw [List.map_cons, List.map_singleton, (hsplits split (by simp)).2,
        (hsplits split' (by simp)).2]
  · obtain ⟨-, hdepth, -, -, hfails⟩ := takenApart_ends (crowdedPolicy 16384) threeRoutes hsize
    have hlong : bodyBound ≤ (crowdedPolicy 16384).announcementLength 0 0 := by
      rw [announcementLength_crowdedPolicy (by decide)]
      decide
    have hfirst : (crowdedPolicy 16384).firstMisfit? threeRoutes
        = some (.v4 (.ofNat 1), true) := by
      rw [firstMisfit?_of_long hlong]
      rfl
    have hneeds : needsAttributes (.singleton (.v4 (.ofNat 1), true)) := by decide
    have htags : (crowdedPolicy 16384).communities.length = 16384 := List.length_replicate
    have hcause : (crowdedPolicy 16384).renderBatch threeRoutes
        = .error (.attributeTooLarge .communities 65536) := by
      refine (renderBatch_eq_error_iff _ _ _).mpr ⟨_, hfirst, ?_⟩
      rw [misfit_render_singleton, obstacle?_singleton, htags, if_pos ⟨hneeds, by decide⟩]
    obtain ⟨splits, hevents, hsplits, -⟩ := hfails _ hcause
    exact ⟨hcause, hdepth, splits, hevents, hsplits⟩

end Policy

end RouteHealth
