import RouteHealth.Proofs.Update.Reading

/-!
# The routes in UPDATE bodies

A body carries routes in four places: the withdrawn and the advertised IPv4 routes outside the
attributes, and the IPv6 routes inside two of them.  `Streams.ofBody?` picks the octets of these four
runs of records out of a body.  For a rendered body they are the four streams of its routes
(`Policy.streams_of_render`), and read as routes they are the routes themselves
(`Policy.routes_content_perm`).
-/

namespace RouteHealth

open Attribute (Value Encoded)
open scoped List

/-! ## the octets of the routes in a body -/

/-- the records of the IPv6 routes to advertise in an attribute: what follows the next hop and the
reserved octet -/
def Attribute.Encoded.reachableRecords (e : Encoded) : Bytes :=
  if e.type = 14 then
    match e.value with
    | _ :: _ :: _ :: length :: rest => rest.drop (length.toNat + 1)
    | _ => []
  else []

def Attribute.Encoded.unreachableRecords (e : Encoded) : Bytes :=
  if e.type = 15 then e.value.drop 3 else []

/-- the four runs of route records in a body -/
structure Streams where
  withdrawn : Bytes
  advertised : Bytes
  reachable : Bytes
  unreachable : Bytes
  deriving DecidableEq

def Streams.ofBody? (body : Bytes) : Option Streams := do
  let (withdrawn, rest) ← Content.counted? body
  let (attributes, advertised) ← Content.counted? rest
  let encoded ← Attribute.readAll? attributes
  return {
    withdrawn := withdrawn
    advertised := advertised
    reachable := encoded.flatMap Encoded.reachableRecords
    unreachable := encoded.flatMap Encoded.unreachableRecords }

def RouteSet.streams (r : RouteSet) : Streams where
  withdrawn := Nlri.stream .ipv4 r.withdrawn
  advertised := Nlri.stream .ipv4 r.advertised
  reachable := Nlri.stream .ipv6 r.advertised
  unreachable := Nlri.stream .ipv6 r.withdrawn

/-! ## what the attributes carry -/

/-- what a value with routes gives, by what is to be made of them -/
def Attribute.Value.gather {β : Type} (reachable unreachable : List Address → List β) : Value → List β
  | .mpReachable _ routes => reachable routes
  | .mpUnreachable routes => unreachable routes
  | _ => []

namespace Policy

section
variable {β : Type} {f g : List Address → List β} (hf : f [] = []) (hg : g [] = [])
include hf hg

theorem gather_announcement (p : Policy) (reachable unreachable : List Address) :
    (p.announcement reachable unreachable).flatMap (Value.gather f g)
      = f reachable ++ g unreachable := by
  have hnone (c : Prop) [Decidable c] (v : Value) (h : v.gather f g = []) :
      (if c then [] else [v]).flatMap (Value.gather f g) = [] := by
    split
    · rfl
    · rw [List.flatMap_singleton, h]
  have hreachable : (if reachable = [] then [] else [Value.mpReachable p.nextHop6 reachable]).flatMap
      (Value.gather f g) = f reachable := by
    split
    · next h => rw [h, hf, List.flatMap_nil]
    · exact List.flatMap_singleton ..
  have hunreachable : (if unreachable = [] then [] else [Value.mpUnreachable unreachable]).flatMap
      (Value.gather f g) = g unreachable := by
    split
    · next h => rw [h, hg, List.flatMap_nil]
    · exact List.flatMap_singleton ..
  rw [announcement_eq]
  rw [List.flatMap_append, List.flatMap_append, List.flatMap_append, List.flatMap_append,
    List.flatMap_append, hreachable, hunreachable, hnone _ (.localPreference _) rfl,
    hnone _ (.communities _) rfl, hnone _ (.multiExitDiscriminator _) rfl]
  rfl

/-- the attributes of some routes give what is made of the IPv6 routes -/
theorem gather_content (p : Policy) (r : RouteSet) :
    (p.content r).attributes.flatMap (Value.gather f g)
      = f (Nlri.ofFamily .ipv6 r.advertised) ++ g (Nlri.ofFamily .ipv6 r.withdrawn) := by
  show (if needsAttributes r then _ else []).flatMap _ = _
  split
  · exact gather_announcement hf hg p _ _
  · next h =>
    -- without attributes there are no IPv6 routes
    obtain ⟨hadvertised, hwithdrawn⟩ := not_not.mp h
    rw [hadvertised, hwithdrawn]
    show [] = f [] ++ g []
    rw [hf, hg, List.append_nil]

end

/-! ## routes -/

theorem attributeRoutes_eq_gather : Content.attributeRoutes
    = Value.gather (List.map fun a => (a, true)) (List.map fun a => (a, false)) := by
  funext v
  cases v <;> rfl

theorem routes_content_perm (p : Policy) (r : RouteSet) : (p.content r).routes.Perm r.entries := by
  let w4 := (Nlri.ofFamily .ipv4 r.withdrawn).map fun a => (a, false)
  let w6 := (Nlri.ofFamily .ipv6 r.withdrawn).map fun a => (a, false)
  let a4 := (Nlri.ofFamily .ipv4 r.advertised).map fun a => (a, true)
  let a6 := (Nlri.ofFamily .ipv6 r.advertised).map fun a => (a, true)
  have hroutes : (p.content r).routes = w4 ++ (a6 ++ w6) ++ a4 := by
    rw [Content.routes, attributeRoutes_eq_gather, gather_content rfl rfl]
    rfl
  have hadvertised : (a4 ++ a6).Perm (r.advertised.map fun a => (a, true)) := by
    rw [← List.map_append]
    exact (Nlri.ofFamily_perm r.advertised).map _
  have hwithdrawn : (w4 ++ w6).Perm (r.withdrawn.map fun a => (a, false)) := by
    rw [← List.map_append]
    exact (Nlri.ofFamily_perm r.withdrawn).map _
  calc (p.content r).routes
      = w4 ++ (a6 ++ w6) ++ a4 := hroutes
    _ ~ a4 ++ (w4 ++ (a6 ++ w6)) := List.perm_append_comm
    _ ~ (a4 ++ a6) ++ (w4 ++ w6) := by
      rw [List.append_assoc]
      refine List.Perm.append_left a4 ?_
      rw [← List.append_assoc, ← List.append_assoc]
      exact List.Perm.append_right w6 List.perm_append_comm
    _ ~ r.advertised.map (fun a => (a, true)) ++ r.withdrawn.map (fun a => (a, false)) :=
      hadvertised.append hwithdrawn
    _ ~ r.entries := r.flagged_perm

/-! ## octets -/

theorem reachableRecords_written (v : Value) :
    (Encoded.ofValue v.written.1 v.written.2).reachableRecords
      = v.gather (·.flatMap Nlri.record) fun _ => [] := by
  cases v with
  | mpReachable hop routes =>
    have hhop := Attribute.toNat_length_nextHop6 hop
    show (hop.octets ++ 0 :: routes.flatMap Nlri.record).drop
      ((UInt8.ofNat hop.octets.length).toNat + 1) = _
    rw [hhop, List.drop_append, List.drop_of_length_le (Nat.le_succ _), Nat.add_sub_cancel_left]
    rfl
  | _ => rfl

theorem unreachableRecords_written (v : Value) :
    (Encoded.ofValue v.written.1 v.written.2).unreachableRecords
      = v.gather (fun _ => []) (·.flatMap Nlri.record) := by
  cases v <;> rfl

/-- the runs of records in a rendered body are the streams of its routes -/
theorem streams_of_render {p : Policy} {r : RouteSet} {body : Bytes} (h : p.render r = .ok body) :
    Streams.ofBody? body = some r.streams := by
  rw [render_eq_encode] at h
  obtain ⟨hnone, rfl⟩ := (Content.encode_eq_ok_iff _ _).mp h
  obtain ⟨rest, hbody, hrest⟩ := Content.counted?_octets hnone
  have hencoded := Content.readAll?_attributeOctets hnone
  have hreachable : (((p.content r).attributes.map Value.written).map
      fun v => Encoded.ofValue v.1 v.2).flatMap Encoded.reachableRecords
        = Nlri.stream .ipv6 r.advertised := by
    rw [List.map_map, List.flatMap_map]
    exact (List.flatMap_congr fun v _ => reachableRecords_written v).trans
      ((gather_content rfl rfl p r).trans (List.append_nil _))
  have hunreachable : (((p.content r).attributes.map Value.written).map
      fun v => Encoded.ofValue v.1 v.2).flatMap Encoded.unreachableRecords
        = Nlri.stream .ipv6 r.withdrawn := by
    rw [List.map_map, List.flatMap_map]
    exact (List.flatMap_congr fun v _ => unreachableRecords_written v).trans
      (gather_content rfl rfl p r)
  unfold Streams.ofBody?
  simp only [hbody, hrest, hencoded, hreachable, hunreachable, Option.bind_eq_bind, Option.bind_some]
  rfl

end Policy

end RouteHealth
