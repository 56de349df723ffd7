import RouteHealth.Proofs.Batch
import RouteHealth.Proofs.Update.Count

/-!
# A batch keeps all routes

The messages of a batch carry the routes they were made from, each once, in address order from one
message to the next, and their runs of records are the runs of the whole set cut into pieces
(`Policy.renderBatch_conserves`).  All of this holds of every cut.
-/

namespace RouteHealth.Policy

variable {p : Policy} {r : RouteSet} {parts : List RouteSet}

namespace IsCut

theorem mapM_ofBody? (h : p.IsCut r parts) :
    (parts.map fun s => Message.update (p.content s).octets).mapM (fun m => Content.ofBody? m.body)
      = some (parts.map p.content) := by
  rw [List.mapM_map]
  apply mapM_eq_pure_map
  intro s hs
  exact ofBody?_of_render (render_of_bodyLength_lt (h.fits s hs))

theorem mapM_streams (h : p.IsCut r parts) :
    (parts.map fun s => Message.update (p.content s).octets).mapM (fun m => Streams.ofBody? m.body)
      = some (parts.map RouteSet.streams) := by
  rw [List.mapM_map]
  apply mapM_eq_pure_map
  intro s hs
  exact streams_of_render (render_of_bodyLength_lt (h.fits s hs))

theorem routes_perm (h : p.IsCut r parts) :
    ((parts.map p.content).flatMap Content.routes).Perm r.entries := by
  rw [List.flatMap_map, ← h.entries]
  exact List.Perm.flatMap_left _ fun s _ => routes_content_perm p s

theorem ascending (h : p.IsCut r parts) :
    (parts.map p.content).Pairwise fun c d => ∀ x ∈ c.routes, ∀ y ∈ d.routes, x.1 < y.1 := by
  have hentries := r.ascending
  rw [← h.entries] at hentries
  refine List.pairwise_map.mpr ((List.pairwise_flatMap.mp hentries).2.imp ?_)
  intro s t hst x hx y hy
  exact hst x ((routes_content_perm p s).mem_iff.mp hx) y ((routes_content_perm p t).mem_iff.mp hy)

/-- the runs of records of the parts, one after the other, are those of the whole -/
theorem streams_flatMap (h : p.IsCut r parts) :
    (parts.map RouteSet.streams).flatMap Streams.withdrawn = Nlri.stream .ipv4 r.withdrawn
      ∧ (parts.map RouteSet.streams).flatMap Streams.advertised = Nlri.stream .ipv4 r.advertised
      ∧ (parts.map RouteSet.streams).flatMap Streams.reachable = Nlri.stream .ipv6 r.advertised
      ∧ (parts.map RouteSet.streams).flatMap Streams.unreachable = Nlri.stream .ipv6 r.withdrawn := by
  have hadvertised := RouteSet.advertised_flatMap h.entries
  have hwithdrawn := RouteSet.withdrawn_flatMap h.entries
  simp only [List.flatMap_map, ← hadvertised, ← hwithdrawn, Nlri.stream_flatMap]
  exact ⟨rfl, rfl, rfl, rfl⟩

end IsCut

/-- **A batch loses, repeats, flips and moves no route.**  Every message is an UPDATE with a body of less
than 4000 octets; the bodies can be read, and have the routes of the set, no address twice; the addresses
of a message are below those of the messages after it; the four runs of records in the bodies, one message
after the other, are the four streams of the whole set; and only the set without routes has no
message. -/
theorem renderBatch_conserves (p : Policy) (r : RouteSet) (ms : List Message)
    (h : p.renderBatch r = .ok ms) :
    (∀ m ∈ ms, ∃ body, m = .update body ∧ body.length < 4000)
      ∧ (∃ contents, ms.mapM (fun m => Content.ofBody? m.body) = some contents
        ∧ (contents.flatMap Content.routes).Perm r.entries
        ∧ ((contents.flatMap Content.routes).map (·.1)).Nodup
        ∧ contents.Pairwise fun c d => ∀ x ∈ c.routes, ∀ y ∈ d.routes, x.1 < y.1)
      ∧ (∃ streams, ms.mapM (fun m => Streams.ofBody? m.body) = some streams
        ∧ streams.flatMap Streams.withdrawn = Nlri.stream .ipv4 r.withdrawn
        ∧ streams.flatMap Streams.advertised = Nlri.stream .ipv4 r.advertised
        ∧ streams.flatMap Streams.reachable = Nlri.stream .ipv6 r.advertised
        ∧ streams.flatMap Streams.unreachable = Nlri.stream .ipv6 r.withdrawn)
      ∧ (ms = [] ↔ r.entries = []) := by
  obtain ⟨parts, hcut, hnil, rfl⟩ := exists_cut_of_renderBatch h
  refine ⟨?_, ⟨_, hcut.mapM_ofBody?, hcut.routes_perm, ?_, hcut.ascending⟩,
    ⟨_, hcut.mapM_streams, hcut.streams_flatMap⟩, List.map_eq_nil_iff.trans hnil⟩
  · intro m hm
    obtain ⟨s, hs, rfl⟩ := List.mem_map.mp hm
    exact ⟨_, rfl, hcut.fits s hs⟩
  · exact (hcut.routes_perm.map _).nodup_iff.mpr r.nodup_addresses

def threeRoutes : RouteSet where
  entries := [(.v4 (.ofNat 1), true), (.v4 (.ofNat 2), true), (.v4 (.ofNat 3), true)]
  ascending := by decide

/-- an advertised and a withdrawn route of each family in one message, and three routes of which two fit
a message -/
theorem renderBatch_conserves_mixed :
    (internalPolicy.renderBatch fourRoutes = .ok [.update fourRoutesBody]
      ∧ (∃ contents, [fourRoutesBody].mapM Content.ofBody? = some contents
        ∧ (contents.flatMap Content.routes).Perm fourRoutes.entries)
      ∧ ∃ streams, [fourRoutesBody].mapM Streams.ofBody? = some streams
        ∧ streams.flatMap Streams.withdrawn = [32, 10, 0, 0, 2]
        ∧ streams.flatMap Streams.advertised = [32, 10, 0, 0, 1]
        ∧ streams.flatMap Streams.reachable = 128 :: List.replicate 15 0 ++ [3]
        ∧ streams.flatMap Streams.unreachable = 128 :: List.replicate 15 0 ++ [4])
    ∧ ∃ ms, (crowdedPolicy 990).renderBatch threeRoutes = .ok ms
      ∧ ∃ contents, ms.mapM (fun m => Content.ofBody? m.body) = some contents
        ∧ (contents.flatMap Content.routes).Perm threeRoutes.entries := by
  constructor
  · have hms : internalPolicy.renderBatch fourRoutes = .ok [.update fourRoutesBody] := by
      decide +kernel
    obtain ⟨-, ⟨contents, hread, hroutes, -⟩, ⟨streams, hstreams, hrecords⟩, -⟩ :=
      renderBatch_conserves _ _ _ hms
    exact ⟨hms, ⟨contents, hread, hroutes⟩, streams, hstreams, hrecords⟩
  · have hfirst : (crowdedPolicy 990).firstMisfit? threeRoutes = none := by
      simp [firstMisfit?, threeRoutes, bodyLength_singleton_crowdedPolicy, bodyBound]
    obtain ⟨ms, hms⟩ := (exists_renderBatch_eq_ok_iff _ _).mpr hfirst
    obtain ⟨-, ⟨contents, hread, hroutes, -⟩, -⟩ := renderBatch_conserves _ _ _ hms
    exact ⟨ms, hms, contents, hread, hroutes⟩

end RouteHealth.Policy
