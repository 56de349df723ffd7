import RouteHealth.Proofs.Batch
import RouteHealth.Proofs.Update.Count

/-!
# When a batch fails

A batch fails exactly if a route does not fit a message alone, and then for the reason of the route of
the least address among those (`Policy.renderBatch_outcome`).  What became of larger sets on the way
does not show.  The attributes of one route can be too long together where each of them is short, so
that a batch fails with a part that is too long: `Policy.renderBatch_eq_sectionTooLarge_iff` says
exactly when.
-/

namespace RouteHealth.Policy

variable {p : Policy} {r : RouteSet} {e : Route}

/-! ## the first route that does not fit alone -/

/-- whether a route alone has a body of less than 4000 octets -/
def SendsAlone (p : Policy) (e : Route) : Prop :=
  ∃ body, p.render (.singleton e) = .ok body ∧ body.length < 4000

/-- why a route alone has no body that can be sent: it has no body, or too long a body -/
def FailsAlone (p : Policy) (e : Route) (cause : RenderError) : Prop :=
  p.render (.singleton e) = .error cause
    ∨ ∃ body, p.render (.singleton e) = .ok body ∧ 4000 ≤ body.length
      ∧ cause = .unsplittableRoute e.1 body.length

theorem sendsAlone_iff (p : Policy) (e : Route) :
    p.SendsAlone e ↔ p.bodyLength (.singleton e) < bodyBound := p.sendable_iff (.singleton e)

theorem failsAlone_iff (p : Policy) (e : Route) (cause : RenderError) :
    p.FailsAlone e cause ↔ ¬p.SendsAlone e ∧ cause = misfit e.1 (p.render (.singleton e)) := by
  unfold FailsAlone SendsAlone
  cases p.render (.singleton e) with
  | error cause' => simp [misfit, eq_comm]
  | ok body => simp [misfit]

theorem firstMisfit?_eq_some_iff (p : Policy) (r : RouteSet) (e : Route) :
    p.firstMisfit? r = some e ↔ e ∈ r.entries ∧ ¬p.SendsAlone e
      ∧ ∀ x ∈ r.entries, ¬p.SendsAlone x → x = e ∨ e.1 < x.1 := by
  simp only [firstMisfit?, RouteSet.find?_eq_some_iff, decide_eq_true_eq, sendsAlone_iff, not_lt]

theorem firstMisfit?_eq_none_iff (p : Policy) (r : RouteSet) :
    p.firstMisfit? r = none ↔ ∀ e ∈ r.entries, p.SendsAlone e := by
  simp only [firstMisfit?, List.find?_eq_none, decide_eq_true_eq, sendsAlone_iff, not_le]

/-- **When a batch fails, and with what.**  There are messages exactly if each route alone has a body
that can be sent; the reason of a failure is that of the route of the least address that has none; and
a set that fails still fails with more routes. -/
theorem renderBatch_outcome (p : Policy) (r : RouteSet) :
    ((∃ ms, p.renderBatch r = .ok ms) ↔ ∀ e ∈ r.entries, p.SendsAlone e)
      ∧ (∀ cause, p.renderBatch r = .error cause ↔ ∃ e ∈ r.entries, p.FailsAlone e cause
        ∧ ∀ x ∈ r.entries, ¬p.SendsAlone x → x = e ∨ e.1 < x.1)
      ∧ ∀ s : RouteSet, r.entries ⊆ s.entries → (∃ cause, p.renderBatch r = .error cause) →
        ∃ cause, p.renderBatch s = .error cause := by
  have hok (t : RouteSet) : (∃ ms, p.renderBatch t = .ok ms) ↔ ∀ e ∈ t.entries, p.SendsAlone e :=
    (exists_renderBatch_eq_ok_iff p t).trans (firstMisfit?_eq_none_iff p t)
  refine ⟨hok r, ?_, ?_⟩
  · intro cause
    rw [renderBatch_eq_error_iff]
    constructor
    · rintro ⟨e, hfirst, rfl⟩
      obtain ⟨he, hfails, hleast⟩ := (firstMisfit?_eq_some_iff p r e).mp hfirst
      exact ⟨e, he, (failsAlone_iff p e _).mpr ⟨hfails, rfl⟩, hleast⟩
    · rintro ⟨e, he, hcause, hleast⟩
      obtain ⟨hfails, hmisfit⟩ := (failsAlone_iff p e cause).mp hcause
      exact ⟨e, (firstMisfit?_eq_some_iff p r e).mpr ⟨he, hfails, hleast⟩, hmisfit⟩
  · rintro s hsub ⟨cause, hcause⟩
    cases hs : p.renderBatch s with
    | error cause' => exact ⟨cause', rfl⟩
    | ok ms =>
      have hall := (hok s).mp ⟨ms, hs⟩
      have hpart : ∀ e ∈ r.entries, p.SendsAlone e := by
        intro e he
        exact hall e (hsub he)
      obtain ⟨ms', hr⟩ := (hok r).mpr hpart
      rw [hr] at hcause
      cases hcause

/-- a withdrawn route before two that are advertised -/
def withdrawnFirst : RouteSet where
  entries := [(.v4 (.ofNat 1), false), (.v4 (.ofNat 2), true), (.v4 (.ofNat 3), true)]
  ascending := by decide

/-- with 991 tags each route fits a message alone, and with 992 the first advertised route is the one that a
batch fails for -/
theorem renderBatch_outcome_crowded :
    (∃ ms, (crowdedPolicy 991).renderBatch withdrawnFirst = .ok ms)
      ∧ (crowdedPolicy 992).renderBatch withdrawnFirst
        = .error (.unsplittableRoute (.v4 (.ofNat 2)) 4002) := by
  have hwithdrawn (tags : Nat) : (crowdedPolicy tags).SendsAlone (.v4 (.ofNat 1), false) := by
    rw [sendsAlone_iff, bodyLength_singleton_of_not_isAnnounced rfl]
    decide
  constructor
  · have hadvertised (a : IPv4) : (crowdedPolicy 991).SendsAlone (.v4 a, true) := by
      rw [sendsAlone_iff, bodyLength_singleton_crowdedPolicy (by decide)]
      decide
    refine (renderBatch_outcome _ _).1.mpr ?_
    simp only [withdrawnFirst, List.forall_mem_cons]
    exact ⟨hwithdrawn 991, hadvertised _, hadvertised _, List.forall_mem_nil _⟩
  · have hfails : (crowdedPolicy 992).FailsAlone (.v4 (.ofNat 2), true)
        (.unsplittableRoute (.v4 (.ofNat 2)) 4002) := by
      have hbody : (crowdedPolicy 992).bodyLength (.singleton (.v4 (.ofNat 2), true)) = 4002 :=
        bodyLength_singleton_crowdedPolicy (by decide) _
      refine .inr ⟨_, render_of_bodyLength_le (by rw [hbody]; decide), ?_⟩
      change (Content.octets _).length = 4002 at hbody
      rw [hbody]
      exact ⟨by decide, rfl⟩
    have hleast : ∀ x ∈ withdrawnFirst.entries, ¬(crowdedPolicy 992).SendsAlone x →
        x = (.v4 (.ofNat 2), true) ∨ .v4 (.ofNat 2) < x.1 := by
      intro x hx hunsent
      simp only [withdrawnFirst, List.mem_cons, List.not_mem_nil, or_false] at hx
      rcases hx with rfl | rfl | rfl
      · exact absurd (hwithdrawn 992) hunsent
      · exact .inl rfl
      · exact .inr (by decide)
    exact ((renderBatch_outcome _ _).2.1 _).mpr ⟨_, by decide, hfails, hleast⟩

/-! ## attributes that are too long together -/

theorem misfit_render_singleton (p : Policy) (e : Route) :
    misfit e.1 (p.render (.singleton e)) = match p.obstacle? (.singleton e) with
      | some cause => cause
      | none => .unsplittableRoute e.1 (p.bodyLength (.singleton e)) := by
  rw [render_eq]
  cases p.obstacle? (.singleton e) <;> rfl

theorem misfit_eq_sectionTooLarge_iff (p : Policy) (e : Route) (part : Section) (size : Nat) :
    misfit e.1 (p.render (.singleton e)) = .sectionTooLarge part size
      ↔ part = .pathAttributes ∧ p.communities.length ≤ 16383 ∧ 65535 < size
        ∧ size = p.attributesLength (.singleton e) := by
  rw [misfit_render_singleton, obstacle?_singleton]
  by_cases hvalue : needsAttributes (.singleton e) ∧ 65535 < 4 * p.communities.length
  · rw [if_pos hvalue]
    constructor
    · intro h
      cases h
    · intro h
      omega
  · rw [if_neg hvalue]
    by_cases hpart : 65535 < p.attributesLength (.singleton e)
    · have hneeds : needsAttributes (.singleton e) := by
        by_contra hneeds
        rw [attributesLength, if_neg hneeds] at hpart
        omega
      have hfew : ¬65535 < 4 * p.communities.length := by
        intro hmany
        exact hvalue ⟨hneeds, hmany⟩
      rw [if_pos hpart]
      show RenderError.sectionTooLarge _ _ = _ ↔ _
      rw [RenderError.sectionTooLarge.injEq]
      constructor
      · rintro ⟨rfl, rfl⟩
        exact ⟨rfl, by omega, hpart, rfl⟩
      · rintro ⟨rfl, -, -, rfl⟩
        exact ⟨rfl, rfl⟩
    · rw [if_neg hpart]
      constructor
      · intro h
        cases h
      · intro h
        omega

/-- where the shared attributes alone are too long for a message, the first route that does not fit is
the first that is announced -/
theorem firstMisfit?_of_long (h : bodyBound ≤ p.announcementLength 0 0) (r : RouteSet) :
    p.firstMisfit? r = r.entries.find? isAnnounced := by
  unfold firstMisfit?
  congr 1
  funext e
  cases he : isAnnounced e with
  | true =>
    rw [bodyLength_singleton, attributesLength_singleton_eq, if_pos he]
    exact decide_eq_true (by omega)
  | false =>
    rw [bodyLength_singleton_of_not_isAnnounced he]
    exact decide_eq_false (by decide)

/-- **When a batch fails with a part that is too long.**  The tags fit their attribute, but all
attributes of the first announced route have more than 65535 octets. -/
theorem renderBatch_eq_sectionTooLarge_iff (p : Policy) (r : RouteSet) (part : Section) (size : Nat) :
    p.renderBatch r = .error (.sectionTooLarge part size)
      ↔ part = .pathAttributes ∧ p.communities.length ≤ 16383 ∧ 65535 < size
        ∧ ∃ e, r.entries.find? (fun e => e.2 || e.1.family = .ipv6) = some e
          ∧ size = (if p.isExternal then 22 else 25) + 4 * p.communities.length
            + (if p.med = 0 then 0 else 7)
            + (if e.1.family = .ipv4 then 0 else if e.2 then p.nextHop6.wireLength + 25 else 23) := by
  have hshared := p.announcementLength_le
  rw [renderBatch_eq_error_iff]
  constructor
  · rintro ⟨e, hfirst, hcause⟩
    obtain ⟨rfl, hfew, hlong, hsize⟩ := (misfit_eq_sectionTooLarge_iff p e part size).mp hcause.symm
    have hown := p.ownLength_le e
    rw [attributesLength_singleton_eq] at hsize
    split at hsize
    · -- with so many tags no announced route fits, so the first of them is the one that fails
      have hmany : 63 < p.communities.length := by omega
      rw [firstMisfit?_of_long (show 4000 ≤ _ by omega)] at hfirst
      rw [announcementLength_of_many hmany] at hsize
      exact ⟨rfl, hfew, hlong, e, hfirst, hsize⟩
    · omega
  · rintro ⟨rfl, hfew, hlong, e, hfirst, hsize⟩
    have hown := p.ownLength_le e
    have hannounced : isAnnounced e := List.find?_some hfirst
    replace hsize : size = _ + p.ownLength e := hsize
    have hmany : 63 < p.communities.length := by
      have hbase : (if p.isExternal then 22 else 25) ≤ 25 := by split <;> omega
      have hmed : (if p.med = 0 then 0 else 7) ≤ 7 := by split <;> omega
      omega
    rw [← announcementLength_of_many hmany] at hsize
    have hattributes : size = p.attributesLength (.singleton e) := by
      rw [attributesLength_singleton_eq, if_pos hannounced, hsize]
    have hcause := (misfit_eq_sectionTooLarge_iff p e _ size).mpr ⟨rfl, hfew, hlong, hattributes⟩
    refine ⟨e, ?_, hcause.symm⟩
    rw [firstMisfit?_of_long (show 4000 ≤ _ by omega)]
    exact hfirst

/-- one route that a batch fails for, though its tags fit their attribute -/
theorem renderBatch_crowded :
    (crowdedPolicy 16383).renderBatch (.singleton (.v4 (.ofNat 0x0A000001), true))
      = .error (.sectionTooLarge .pathAttributes 65557) := by
  have hlength : (crowdedPolicy 16383).attributesLength (.singleton (.v4 (.ofNat 0x0A000001), true))
      = 65557 := by
    rw [attributesLength_singleton]
    exact announcementLength_crowdedPolicy (by decide)
  refine (renderBatch_eq_error_iff _ _ _).mpr ⟨_, List.find?_cons_of_pos ?_, ?_⟩
  · rw [bodyLength_singleton, hlength]
    decide
  · refine ((misfit_eq_sectionTooLarge_iff _ _ _ _).mpr ⟨rfl, ?_, by decide, hlength.symm⟩).symm
    rw [crowdedPolicy, List.length_replicate]

end RouteHealth.Policy
