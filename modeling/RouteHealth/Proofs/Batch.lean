import RouteHealth.Proofs.RouteSet.Halving
import RouteHealth.Proofs.Update.Routes
import RouteHealth.Proofs.Update.Size

/-!
# Taking routes apart

Whether routes fit a message is a matter of the length of their body, so the way they are taken apart
has three cases: they fit, they are one route that does not fit, or they are taken apart in halves
(`Policy.splitting_induction`).  Where it succeeds the bodies are those of a *cut*, sets with short
bodies that have the routes one after the other: those nodes of the halving tree that can be sent where
nothing above them can (`Policy.isCut_coarsest`).  It fails exactly if some route does not fit
alone, and then with the reason of the first such route (`Policy.outcome_splitting`).
-/

namespace RouteHealth

namespace RouteSet

theorem eq_singleton_of_size {r : RouteSet} (h : r.size = 1) : ∃ e, r = singleton e := by
  obtain ⟨e, he⟩ := List.length_eq_one_iff.mp h
  exact ⟨e, RouteSet.ext he⟩

theorem singleton_sublist {r : RouteSet} {e : Route} (h : e ∈ r.entries) :
    (singleton e).entries.Sublist r.entries :=
  List.singleton_sublist.mpr h

end RouteSet

namespace Policy

variable {p : Policy} {r : RouteSet}

/-! ## the three cases -/

theorem splitting_of_fits (h : p.bodyLength r < bodyBound) :
    p.splitting r = .whole (p.content r).octets := by
  have hfit : fitting? (p.render r) = some (p.content r).octets := by rw [fitting?_render, if_pos h]
  rw [splitting]
  simp only [hfit]

theorem splitting_singleton {e : Route} (h : ¬p.bodyLength (.singleton e) < bodyBound) :
    p.splitting (.singleton e) = .stuck (misfit e.1 (p.render (.singleton e))) := by
  have hfit : fitting? (p.render (.singleton e)) = none := by rw [fitting?_render, if_neg h]
  have hsize : ¬1 < (RouteSet.singleton e).size := Nat.lt_irrefl 1
  rw [splitting]
  simp only [hfit, dif_neg hsize, RouteSet.entries_singleton]

/-- the upper half is looked at only after the lower one succeeded -/
theorem splitting_of_halves (h : ¬p.bodyLength r < bodyBound) (hsize : 1 < r.size) :
    p.splitting r = match (p.splitting r.lower).bodies with
      | .error _ => .lowerFailed (splitEvent r.size (p.render r)) (p.splitting r.lower)
      | .ok _ =>
        .halves (splitEvent r.size (p.render r)) (p.splitting r.lower) (p.splitting r.upper) := by
  have hfit : fitting? (p.render r) = none := by rw [fitting?_render, if_neg h]
  rw [splitting]
  cases hlower : (p.splitting r.lower).bodies with
  | error cause => simp only [hfit, dif_pos hsize, hlower]
  | ok front => simp only [hfit, dif_pos hsize, hlower]

theorem bodies_splitting_of_halves (h : ¬p.bodyLength r < bodyBound) (hsize : 1 < r.size) :
    (p.splitting r).bodies = do
      let front ← (p.splitting r.lower).bodies
      let back ← (p.splitting r.upper).bodies
      return front ++ back := by
  rw [splitting_of_halves h hsize]
  cases hlower : (p.splitting r.lower).bodies with
  | error e => exact hlower
  | ok front =>
    show (p.splitting r.lower).bodies >>= _ = _
    rw [hlower]

theorem fits_of_size_eq_zero (h : r.size = 0) : p.bodyLength r < bodyBound := by
  have hr : r = .empty := RouteSet.ext (RouteSet.size_eq_zero_iff.mp h)
  rw [hr]
  exact show 4 < bodyBound by decide

/-- from the routes that fit and the routes that do not fit alone, and from halves to the whole -/
theorem splitting_induction (p : Policy) {motive : RouteSet → Prop}
    (fits : ∀ r, p.bodyLength r < bodyBound → motive r)
    (alone : ∀ e, ¬p.bodyLength (.singleton e) < bodyBound → motive (.singleton e))
    (halves : ∀ r, ¬p.bodyLength r < bodyBound → 1 < r.size → motive r.lower → motive r.upper →
      motive r) (r : RouteSet) : motive r := by
  induction r using RouteSet.halving_induction with
  | small r hr =>
    by_cases h : p.bodyLength r < bodyBound
    · exact fits r h
    · have hne : r.size ≠ 0 := fun hzero => h (fits_of_size_eq_zero hzero)
      obtain ⟨e, rfl⟩ := RouteSet.eq_singleton_of_size (show r.size = 1 by omega)
      exact alone e h
  | halves r hr hlower hupper =>
    by_cases h : p.bodyLength r < bodyBound
    · exact fits r h
    · exact halves r h hr hlower hupper

/-! ## cuts -/

/-- sets that have some routes one after the other, each with a body that can be sent -/
structure IsCut (p : Policy) (r : RouteSet) (parts : List RouteSet) : Prop where
  entries : parts.flatMap RouteSet.entries = r.entries
  fits : ∀ s ∈ parts, p.bodyLength s < bodyBound

theorem IsCut.append {front back : List RouteSet} (hfront : p.IsCut r.lower front)
    (hback : p.IsCut r.upper back) : p.IsCut r (front ++ back) where
  entries := by
    rw [List.flatMap_append, hfront.entries, hback.entries, r.entries_lower_append_upper]
  fits := by
    intro s hs
    rcases List.mem_append.mp hs with hs | hs
    · exact hfront.fits s hs
    · exact hback.fits s hs

/-! ## the cut that is made -/

/-- a node that can be sent, where nothing above it can -/
def IsCoarsest (p : Policy) (n : RouteSet.Node) : Prop :=
  p.Sendable n.routes ∧ ∀ a ∈ n.ancestors, ¬p.Sendable a

instance (p : Policy) : DecidablePred p.IsCoarsest := fun _ => inferInstanceAs (Decidable (_ ∧ _))

/-- the coarsest nodes that can be sent, from left to right, where some sets are above the routes -/
def coarsestBelow (p : Policy) (ancestors : List RouteSet) (r : RouteSet) : List RouteSet.Node :=
  (RouteSet.nodesBelow ancestors r).filter fun n => p.IsCoarsest n

section

variable {ancestors : List RouteSet}

theorem coarsestBelow_eq_nil {a : RouteSet} (ha : a ∈ ancestors) (h : p.Sendable a) (r : RouteSet) :
    p.coarsestBelow ancestors r = [] := by
  apply List.filter_eq_nil_iff.mpr
  intro n hn
  rw [decide_eq_true_eq]
  intro hcoarsest
  exact hcoarsest.2 a (RouteSet.ancestors_subset hn ha) h

theorem coarsestBelow_of_sendable (h : p.Sendable r) (habove : ∀ a ∈ ancestors, ¬p.Sendable a) :
    p.coarsestBelow ancestors r = [⟨r, ancestors⟩] := by
  have hroot : decide (p.IsCoarsest ⟨r, ancestors⟩) = true := decide_eq_true ⟨h, habove⟩
  have hnone (s : RouteSet) : p.coarsestBelow (r :: ancestors) s = [] :=
    coarsestBelow_eq_nil (List.mem_cons_self ..) h s
  unfold coarsestBelow at hnone ⊢
  by_cases hsize : 1 < r.size
  · rw [RouteSet.nodesBelow_of_halves hsize, List.filter_cons, if_pos hroot, List.filter_append,
      hnone, hnone, List.append_nil]
  · rw [RouteSet.nodesBelow_of_small (Nat.not_lt.mp hsize), List.filter_cons, if_pos hroot,
      List.filter_nil]

theorem coarsestBelow_of_halves (h : ¬p.Sendable r) (hsize : 1 < r.size) :
    p.coarsestBelow ancestors r
      = p.coarsestBelow (r :: ancestors) r.lower ++ p.coarsestBelow (r :: ancestors) r.upper := by
  have hroot : ¬decide (p.IsCoarsest ⟨r, ancestors⟩) = true := by
    rw [decide_eq_true_eq]
    exact fun hcoarsest => h hcoarsest.1
  unfold coarsestBelow
  rw [RouteSet.nodesBelow_of_halves hsize, List.filter_cons, if_neg hroot, List.filter_append]

/-- taking routes apart, where it succeeds, gives the bodies of the coarsest nodes that can be sent -/
theorem isCut_coarsestBelow {bodies : List Bytes} (h : (p.splitting r).bodies = .ok bodies)
    (habove : ∀ a ∈ ancestors, ¬p.Sendable a) :
    p.IsCut r ((p.coarsestBelow ancestors r).map (·.routes))
      ∧ bodies = (p.coarsestBelow ancestors r).map fun n => (p.content n.routes).octets := by
  induction r using p.splitting_induction generalizing bodies ancestors with
  | fits r hfits =>
    rw [splitting_of_fits hfits] at h
    obtain rfl := Except.ok.inj h
    rw [coarsestBelow_of_sendable ((p.sendable_iff r).mpr hfits) habove]
    exact ⟨⟨List.flatMap_singleton .., fun s hs => List.mem_singleton.mp hs ▸ hfits⟩, rfl⟩
  | alone e hfits =>
    rw [splitting_singleton hfits] at h
    cases h
  | halves r hfits hsize hlower hupper =>
    have hlong : ¬p.Sendable r := mt (p.sendable_iff r).mp hfits
    have hbelow : ∀ a ∈ r :: ancestors, ¬p.Sendable a := List.forall_mem_cons.mpr ⟨hlong, habove⟩
    rw [bodies_splitting_of_halves hfits hsize] at h
    rw [coarsestBelow_of_halves hlong hsize, List.map_append, List.map_append]
    cases hl : (p.splitting r.lower).bodies with
    | error e =>
      rw [hl] at h
      cases h
    | ok front =>
      cases hu : (p.splitting r.upper).bodies with
      | error e =>
        rw [hl, hu] at h
        cases h
      | ok back =>
        rw [hl, hu] at h
        obtain rfl := Except.ok.inj h
        obtain ⟨hfront, rfl⟩ := hlower hl hbelow
        obtain ⟨hback, rfl⟩ := hupper hu hbelow
        exact ⟨hfront.append hback, rfl⟩

end

/-! ## the first route that does not fit -/

def firstMisfit? (p : Policy) (r : RouteSet) : Option Route :=
  r.entries.find? fun e => bodyBound ≤ p.bodyLength (.singleton e)

theorem firstMisfit?_eq_none_of_fits (h : p.bodyLength r < bodyBound) :
    p.firstMisfit? r = none := by
  apply List.find?_eq_none.mpr
  intro e he
  have hmono := p.bodyLength_mono (RouteSet.singleton_sublist he)
  simp only [decide_eq_true_eq]
  omega

theorem firstMisfit?_halves (p : Policy) (r : RouteSet) :
    p.firstMisfit? r = (p.firstMisfit? r.lower).or (p.firstMisfit? r.upper) := by
  rw [firstMisfit?, ← r.entries_lower_append_upper, List.find?_append]
  rfl

/-- taking routes apart fails exactly if a route does not fit alone, and for the first such route;
what became of larger sets does not matter -/
theorem outcome_splitting (p : Policy) (r : RouteSet) :
    (p.splitting r).bodies.map (fun _ => ()) = match p.firstMisfit? r with
      | some e => .error (misfit e.1 (p.render (.singleton e)))
      | none => .ok () := by
  induction r using p.splitting_induction with
  | fits r h =>
    rw [splitting_of_fits h, firstMisfit?_eq_none_of_fits h]
    rfl
  | alone e h =>
    have hfirst : p.firstMisfit? (.singleton e) = some e :=
      List.find?_cons_of_pos (by simpa using h)
    rw [splitting_singleton h, hfirst]
    rfl
  | halves r h hsize hlower hupper =>
    -- how the whole failed to fit is forgotten here: only the halves count, the lower one first
    rw [bodies_splitting_of_halves h hsize, firstMisfit?_halves]
    cases hl : p.firstMisfit? r.lower with
    | some e =>
      rw [hl] at hlower
      cases hbodies : (p.splitting r.lower).bodies with
      | ok front =>
        rw [hbodies] at hlower
        cases hlower
      | error cause =>
        rw [hbodies] at hlower
        exact hlower
    | none =>
      rw [hl] at hlower
      cases hbodies : (p.splitting r.lower).bodies with
      | error cause =>
        rw [hbodies] at hlower
        cases hlower
      | ok front =>
        rw [Option.none_or, ← hupper]
        cases (p.splitting r.upper).bodies <;> rfl

/-! ## batches -/

theorem renderBatch_of_nil (h : r.entries = []) : p.renderBatch r = .ok [] :=
  if_pos (RouteSet.size_eq_zero_iff.mpr h)

theorem renderBatch_of_ne_nil (h : r.entries ≠ []) :
    p.renderBatch r = (p.splitting r).bodies.map (·.map .update) :=
  if_neg fun hzero => h (RouteSet.size_eq_zero_iff.mp hzero)

theorem exists_bodies_of_renderBatch {ms : List Message} (hr : r.entries ≠ [])
    (h : p.renderBatch r = .ok ms) :
    ∃ bodies, (p.splitting r).bodies = .ok bodies ∧ ms = bodies.map .update := by
  rw [renderBatch_of_ne_nil hr] at h
  cases hbodies : (p.splitting r).bodies with
  | error cause =>
    rw [hbodies] at h
    cases h
  | ok bodies =>
    rw [hbodies] at h
    exact ⟨bodies, rfl, (Except.ok.inj h).symm⟩

theorem bodies_of_renderBatch_eq_error {cause : RenderError} (hr : r.entries ≠ [])
    (h : p.renderBatch r = .error cause) : (p.splitting r).bodies = .error cause := by
  rw [renderBatch_of_ne_nil hr] at h
  cases hbodies : (p.splitting r).bodies with
  | error cause' =>
    rw [hbodies] at h
    exact congrArg Except.error (Except.error.inj h)
  | ok bodies =>
    rw [hbodies] at h
    cases h

/-- the coarsest nodes of the halving tree that can be sent, from left to right -/
def coarsest (p : Policy) (r : RouteSet) : List RouteSet.Node :=
  r.halvingTree.filter fun n => p.IsCoarsest n

theorem isCut_coarsest {ms : List Message} (hr : r.entries ≠ []) (h : p.renderBatch r = .ok ms) :
    p.IsCut r ((p.coarsest r).map (·.routes))
      ∧ ms = (p.coarsest r).map fun n => .update (p.content n.routes).octets := by
  obtain ⟨bodies, hbodies, rfl⟩ := exists_bodies_of_renderBatch hr h
  obtain ⟨hcut, rfl⟩ := isCut_coarsestBelow hbodies fun a ha => absurd ha List.not_mem_nil
  exact ⟨hcut, List.map_map⟩

theorem exists_cut_of_renderBatch {ms : List Message} (h : p.renderBatch r = .ok ms) :
    ∃ parts, p.IsCut r parts ∧ (parts = [] ↔ r.entries = [])
      ∧ ms = parts.map fun s => .update (p.content s).octets := by
  by_cases hnil : r.entries = []
  · rw [renderBatch_of_nil hnil] at h
    obtain rfl := Except.ok.inj h
    exact ⟨[], ⟨hnil.symm, nofun⟩, ⟨fun _ => hnil, fun _ => rfl⟩, rfl⟩
  · obtain ⟨hcut, rfl⟩ := isCut_coarsest hnil h
    have hparts : (p.coarsest r).map (·.routes) ≠ [] := by
      intro hparts
      apply hnil
      rw [← hcut.entries, hparts, List.flatMap_nil]
    refine ⟨_, hcut, iff_of_false hparts hnil, ?_⟩
    rw [List.map_map]
    rfl

theorem renderBatch_eq_error_iff (p : Policy) (r : RouteSet) (cause : RenderError) :
    p.renderBatch r = .error cause
      ↔ ∃ e, p.firstMisfit? r = some e ∧ cause = misfit e.1 (p.render (.singleton e)) := by
  by_cases hnil : r.entries = []
  · have hfirst : p.firstMisfit? r = none := by rw [firstMisfit?, hnil, List.find?_nil]
    rw [renderBatch_of_nil hnil, hfirst]
    simp
  · have houtcome := p.outcome_splitting r
    rw [renderBatch_of_ne_nil hnil]
    cases hfirst : p.firstMisfit? r with
    | none =>
      rw [hfirst] at houtcome
      cases hbodies : (p.splitting r).bodies with
      | error e =>
        rw [hbodies] at houtcome
        cases houtcome
      | ok bodies => simp [Except.map]
    | some e =>
      rw [hfirst] at houtcome
      cases hbodies : (p.splitting r).bodies with
      | error cause' =>
        rw [hbodies] at houtcome
        have hcause : cause' = misfit e.1 (p.render (.singleton e)) := Except.error.inj houtcome
        simp [Except.map, hcause, eq_comm]
      | ok bodies =>
        rw [hbodies] at houtcome
        cases houtcome

theorem exists_renderBatch_eq_ok_iff (p : Policy) (r : RouteSet) :
    (∃ ms, p.renderBatch r = .ok ms) ↔ p.firstMisfit? r = none := by
  cases hbatch : p.renderBatch r with
  | ok ms =>
    constructor
    · intro _
      by_contra hne
      obtain ⟨e, he⟩ := Option.ne_none_iff_exists'.mp hne
      have herror := (renderBatch_eq_error_iff p r _).mpr ⟨e, he, rfl⟩
      rw [hbatch] at herror
      cases herror
    · intro _
      exact ⟨ms, rfl⟩
  | error cause =>
    obtain ⟨e, he, -⟩ := (renderBatch_eq_error_iff p r cause).mp hbatch
    simp [he]

end Policy

end RouteHealth
