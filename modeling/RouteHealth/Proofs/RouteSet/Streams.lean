import RouteHealth.Proofs.RouteSet.Flags
import RouteHealth.Proofs.Update.Routes

/-!
# The four streams of a route set

A list of addresses is written as one stream for each family, and each stream is the records of the
addresses of its family in one way only (`Nlri.stream_ipv4_eq_iff`, `Nlri.stream_ipv6_eq_iff`).  The
advertised and the withdrawn addresses of a set give four streams; a reader of the four has the set again
(`RouteSet.ofStreams?_streams`), so no two sets have the same four (`RouteSet.streams_lossless`).
-/

namespace RouteHealth

namespace Nlri

/-! ## the records of a stream -/

section

variable {α : Type} {mk : α → Address} {pick : Address → Option α} {family : Afi}

/-- the addresses of a family, where `pick` has them and `mk` gives them back -/
theorem ofFamily_eq_map_filterMap (hpick : ∀ a, (pick a).map mk = Option.guard (·.family = family) a)
    (as : List Address) : ofFamily family as = (as.filterMap pick).map mk := by
  rw [List.map_filterMap, funext hpick, List.filterMap_eq_filter]
  rfl

/-- a stream is the records of one list of addresses of its family, which are those that were written -/
theorem stream_eq_flatMap_iff (hinj : Function.Injective mk) (hfamily : ∀ x, (mk x).family = family)
    (hpick : ∀ a, (pick a).map mk = Option.guard (·.family = family) a) {as : List Address}
    {xs : List α} :
    stream family as = xs.flatMap (fun x => record (mk x)) ↔ xs = as.filterMap pick := by
  have hrecords : xs.flatMap (fun x => record (mk x)) = (xs.map mk).flatMap record := by
    rw [List.flatMap_map]
  have hxs : ∀ b ∈ xs.map mk, b.family = family := by
    intro b hb
    obtain ⟨x, -, rfl⟩ := List.mem_map.mp hb
    exact hfamily x
  have hread := read?_stream family as
  rw [ofFamily_eq_map_filterMap hpick] at hread
  rw [hrecords]
  constructor
  · intro h
    rw [h, read?_flatMap_record hxs] at hread
    exact hinj.list_map (Option.some.inj hread)
  · rintro rfl
    rw [stream_eq, ofFamily_eq_map_filterMap hpick]

end

theorem stream_ipv4_eq_iff {as : List Address} {fours : List IPv4} :
    stream .ipv4 as = fours.flatMap (fun a => 32 :: a.octets)
      ↔ fours = as.filterMap Address.ipv4? := by
  refine stream_eq_flatMap_iff (fun _ _ h => Address.v4.inj h) (fun _ => rfl) fun a => ?_
  cases a <;> rfl

theorem stream_ipv6_eq_iff {as : List Address} {sixes : List IPv6} :
    stream .ipv6 as = sixes.flatMap (fun a => 128 :: a.octets)
      ↔ sixes = as.filterMap Address.ipv6? := by
  refine stream_eq_flatMap_iff (fun _ _ h => Address.v6.inj h) (fun _ => rfl) fun a => ?_
  cases a <;> rfl

end Nlri

namespace RouteSet

/-! ## from the streams to the set -/

/-- the set with the routes in four streams, if they are nothing but records of their families -/
def ofStreams? (s : Streams) : Option RouteSet := do
  let withdrawn4 ← Nlri.read? .ipv4 s.withdrawn
  let advertised4 ← Nlri.read? .ipv4 s.advertised
  let advertised6 ← Nlri.read? .ipv6 s.reachable
  let withdrawn6 ← Nlri.read? .ipv6 s.unreachable
  return ofList ((advertised4 ++ advertised6).map (fun a => (a, true))
    ++ (withdrawn4 ++ withdrawn6).map fun a => (a, false))

theorem ofStreams?_streams (r : RouteSet) : ofStreams? r.streams = some r := by
  have hlist : ofList (r.advertised.map (fun a => (a, true)) ++ r.withdrawn.map fun a => (a, false)) = r :=
    ofList_of_perm r.flagged_perm
  unfold ofStreams? streams
  simp only [Nlri.read?_stream, Option.bind_eq_bind, Option.bind_some,
    Nlri.ofFamily_append r.advertised_ascending, Nlri.ofFamily_append r.withdrawn_ascending, hlist]
  rfl

/-- **Streams of routes lose nothing.**  The IPv4 stream of a list of addresses is the run of records, an
octet 32 and four octets of address each, of the IPv4 addresses in the list, in its order and with its
repetitions, and of no others; the IPv6 stream likewise, with an octet 128 and sixteen octets.  A set is
taken apart into the addresses with either flag, both lists ascending with the IPv4 addresses first, and
has them all, each in one list.  The four streams of the two lists give the set again, and no other set has
the same four. -/
theorem streams_lossless :
    (∀ (as : List Address) (fours : List IPv4),
        Nlri.stream .ipv4 as = fours.flatMap (fun a => 32 :: a.octets)
          ↔ fours = as.filterMap Address.ipv4?)
      ∧ (∀ (as : List Address) (sixes : List IPv6),
        Nlri.stream .ipv6 as = sixes.flatMap (fun a => 128 :: a.octets)
          ↔ sixes = as.filterMap Address.ipv6?)
      ∧ (∀ family as, Nlri.read? family (Nlri.stream family as)
        = some (as.filter (·.family = family)))
      ∧ ∀ r : RouteSet,
        (r.advertised.Pairwise (· < ·) ∧ r.advertised.filter (·.family = .ipv4)
          ++ r.advertised.filter (·.family = .ipv6) = r.advertised)
        ∧ (r.withdrawn.Pairwise (· < ·) ∧ r.withdrawn.filter (·.family = .ipv4)
          ++ r.withdrawn.filter (·.family = .ipv6) = r.withdrawn)
        ∧ r.advertised.Disjoint r.withdrawn
        ∧ (r.advertised ++ r.withdrawn).Perm (r.entries.map (·.1))
        ∧ (∀ a, (a ∈ r.advertised ↔ r.get? a = some true) ∧ (a ∈ r.withdrawn ↔ r.get? a = some false))
        ∧ ofStreams? r.streams = some r
        ∧ ∀ s : RouteSet, s.streams = r.streams ↔ s = r := by
  refine ⟨fun as fours => Nlri.stream_ipv4_eq_iff, fun as sixes => Nlri.stream_ipv6_eq_iff,
    Nlri.read?_stream, ?_⟩
  intro r
  refine ⟨⟨r.advertised_ascending, Nlri.ofFamily_append r.advertised_ascending⟩,
    ⟨r.withdrawn_ascending, Nlri.ofFamily_append r.withdrawn_ascending⟩,
    r.disjoint_advertised_withdrawn, r.addresses_perm,
    fun a => ⟨mem_advertised_iff, mem_withdrawn_iff⟩, r.ofStreams?_streams, ?_⟩
  intro s
  constructor
  · intro h
    have hread := s.ofStreams?_streams
    rw [h, r.ofStreams?_streams] at hread
    exact (Option.some.inj hread).symm
  · rintro rfl
    rfl

end RouteSet

end RouteHealth
