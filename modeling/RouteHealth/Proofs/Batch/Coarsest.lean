import RouteHealth.Proofs.Batch.Conservation
import RouteHealth.Proofs.Update.Count

/-!
# Where a batch is cut

A batch that succeeds has one message for each node of the halving tree that can be sent where nothing
above it can, from left to right (`Policy.renderBatch_coarsest`).  So the routes are never cut finer than
halving has to.
-/

namespace RouteHealth.Policy

variable {p : Policy} {r : RouteSet}

/-- a node that is sent is the root, or a half of a set that cannot be sent -/
theorem eq_root_or_half_of_mem_coarsest {n : RouteSet.Node} (h : n ∈ p.coarsest r) :
    n = ⟨r, []⟩ ∨ ∃ parent above, n.ancestors = parent :: above ∧ 1 < parent.size
      ∧ n.routes.IsHalfOf parent ∧ ¬p.Sendable parent := by
  obtain ⟨hn, hcoarsest⟩ := List.mem_filter.mp h
  rcases RouteSet.eq_root_or_half hn with hroot | ⟨parent, above, hancestors, hsize, hhalf⟩
  · exact .inl hroot
  · have habove := (of_decide_eq_true hcoarsest).2
    rw [hancestors] at habove
    exact .inr ⟨parent, above, hancestors, hsize, hhalf, habove parent (List.mem_cons_self ..)⟩

/-- **A batch is the coarsest cut.**  Routes can be sent if they have a body of less than 4000 octets.
The messages of a batch that succeeds are the bodies of the coarsest nodes that can be sent, in their
order.  These nodes have all the routes one after the other, none of them without a route; a node other
than the root is a half of a set that cannot be sent; and routes that can be sent together are. -/
theorem renderBatch_coarsest (p : Policy) (r : RouteSet) (ms : List Message) (hr : r.entries ≠ [])
    (h : p.renderBatch r = .ok ms) :
    (∀ s, p.Sendable s ↔ ∃ body, p.render s = .ok body ∧ body.length < 4000)
      ∧ (p.coarsest r).mapM (fun n => (p.render n.routes).map Message.update) = .ok ms
      ∧ (p.coarsest r).flatMap (·.routes.entries) = r.entries
      ∧ (∀ n ∈ p.coarsest r, n.routes.entries ≠ [])
      ∧ (∀ n ∈ p.coarsest r, n = ⟨r, []⟩ ∨ ∃ parent above, n.ancestors = parent :: above
        ∧ 1 < parent.size ∧ n.routes.IsHalfOf parent ∧ ¬p.Sendable parent)
      ∧ ∀ body, p.render r = .ok body → body.length < 4000 → ms = [.update body] := by
  obtain ⟨hcut, rfl⟩ := isCut_coarsest hr h
  refine ⟨fun _ => Iff.rfl, ?_, ?_, ?_, fun n => eq_root_or_half_of_mem_coarsest, ?_⟩
  · apply mapM_eq_pure_map
    intro n hn
    rw [render_of_bodyLength_lt (hcut.fits n.routes (List.mem_map_of_mem hn))]
    rfl
  · rw [← hcut.entries, List.flatMap_map]
  · intro n hn
    rcases eq_root_or_half_of_mem_coarsest hn with rfl | ⟨parent, above, -, hsize, hhalf, -⟩
    · exact hr
    · exact hhalf.ne_nil hsize
  · intro body hbody hlt
    have hfits := (p.sendable_iff r).mp ⟨body, hbody, hlt⟩
    have hbodies : (p.splitting r).bodies = .ok [(p.content r).octets] := by
      rw [splitting_of_fits hfits]
      rfl
    rw [render_of_bodyLength_lt hfits] at hbody
    rw [renderBatch_of_ne_nil hr, hbodies, Except.ok.inj hbody] at h
    exact (Except.ok.inj h).symm

/-- two of the three routes fit a message, and they are cut after the first one -/
theorem renderBatch_coarsest_three : ∃ ms, (crowdedPolicy 990).renderBatch threeRoutes = .ok ms
    ∧ ((crowdedPolicy 990).coarsest threeRoutes).mapM
        (fun n => ((crowdedPolicy 990).render n.routes).map Message.update) = .ok ms
    ∧ ((crowdedPolicy 990).coarsest threeRoutes).map (·.routes.size) = [1, 2] := by
  have hsendable (s : RouteSet) (h : s.count true .ipv4 ≠ 0 ∧ s.count true .ipv6 = 0
      ∧ s.count false .ipv4 = 0 ∧ s.count false .ipv6 = 0) :
      (crowdedPolicy 990).Sendable s ↔ s.count true .ipv4 ≤ 2 := by
    obtain ⟨hsome, hreachable, hwithdrawn, hunreachable⟩ := h
    rw [sendable_iff, bodyLength_crowdedPolicy (by decide) hsome hreachable hwithdrawn hunreachable,
      bodyBound]
    omega
  have hlong := mt (hsendable threeRoutes (by decide)).mp (by decide)
  have hlower := (hsendable threeRoutes.lower (by decide)).mpr (by decide)
  have hupper := (hsendable threeRoutes.upper (by decide)).mpr (by decide)
  have habove : ∀ a ∈ [threeRoutes], ¬(crowdedPolicy 990).Sendable a :=
    fun a ha => List.mem_singleton.mp ha ▸ hlong
  have hcoarsest : (crowdedPolicy 990).coarsest threeRoutes
      = [⟨threeRoutes.lower, [threeRoutes]⟩, ⟨threeRoutes.upper, [threeRoutes]⟩] := by
    show (crowdedPolicy 990).coarsestBelow [] threeRoutes = _
    rw [coarsestBelow_of_halves hlong (by decide), coarsestBelow_of_sendable hlower habove,
      coarsestBelow_of_sendable hupper habove]
    rfl
  have hfirst : (crowdedPolicy 990).firstMisfit? threeRoutes = none := by
    rw [firstMisfit?_halves, firstMisfit?_eq_none_of_fits ((sendable_iff _ _).mp hlower),
      firstMisfit?_eq_none_of_fits ((sendable_iff _ _).mp hupper), Option.none_or]
  obtain ⟨ms, hms⟩ := (exists_renderBatch_eq_ok_iff _ _).mpr hfirst
  obtain ⟨-, hbodies, -⟩ := renderBatch_coarsest _ _ ms (by decide) hms
  refine ⟨ms, hms, hbodies, ?_⟩
  rw [hcoarsest]
  rfl

end RouteHealth.Policy
