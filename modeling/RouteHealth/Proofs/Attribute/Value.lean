import RouteHealth.Proofs.Attribute
import RouteHealth.Proofs.Nlri
import RouteHealth.Proofs.Traversal

/-!
# What attributes say, written and read

A `Value` is written as its kind (`Value.kind`) and its octets (`Value.octets`).  A value that has a
written form, `Value.Writable`, is read back from it (`Value.ofOctets?_octets`), and so is a whole
list of such values (`mapM_ofEncoded?`).
-/

namespace RouteHealth.Attribute

/-! ## kinds and octets -/

namespace Value

def kind : Value → Kind
  | .origin _ => .origin
  | .asPath _ => .asPath
  | .nextHop _ => .nextHop
  | .multiExitDiscriminator _ => .multiExitDiscriminator
  | .localPreference _ => .localPreference
  | .communities _ => .communities
  | .mpReachable _ _ => .mpReachable
  | .mpUnreachable _ => .mpUnreachable

/-- a segment: its type, its count and its AS numbers -/
def segmentOctets (segment : UInt8 × List UInt16) : Bytes :=
  segment.1 :: UInt8.ofNat segment.2.length :: segment.2.flatMap Bytes.ofWord16

def octets : Value → Bytes
  | .origin o => [UInt8.ofNat (Registry.code o)]
  | .asPath segments => segments.flatMap segmentOctets
  | .nextHop a => a.octets
  | .multiExitDiscriminator med => Bytes.ofWord32 med
  | .localPreference pref => Bytes.ofWord32 pref
  | .communities cs => cs.flatMap Community.octets
  | .mpReachable hop routes =>
    ipv6Unicast ++ UInt8.ofNat hop.octets.length :: hop.octets ++ 0 :: routes.flatMap Nlri.record
  | .mpUnreachable routes => ipv6Unicast ++ routes.flatMap Nlri.record

/-- a value with a written form: segments of at most 255 AS numbers, and IPv6 routes only -/
def Writable : Value → Prop
  | .asPath segments => ∀ s ∈ segments, s.2.length ≤ 255
  | .mpReachable _ routes => ∀ a ∈ routes, a.family = .ipv6
  | .mpUnreachable routes => ∀ a ∈ routes, a.family = .ipv6
  | _ => True

def written (v : Value) : Kind × Bytes := (v.kind, v.octets)

end Value

/-! ## reading the parts of values -/

theorem words16?_flatMap (ws : List UInt16) : words16? (ws.flatMap Bytes.ofWord16) = some ws := by
  induction ws with
  | nil => rfl
  | cons w ws ih =>
    obtain ⟨a, b, hw⟩ := Bytes.exists_ofWord16 w
    have hback := Bytes.ofNat_toNat_ofWord16 w
    rw [hw] at hback
    rw [List.flatMap_cons, hw]
    show (words16? (ws.flatMap Bytes.ofWord16)).map (UInt16.ofNat (Bytes.toNat [a, b]) :: ·) = _
    rw [ih, hback, Option.map_some]

theorem words32?_flatMap (cs : List Community) :
    words32? (cs.flatMap Community.octets) = some (cs.map Community.raw) := by
  induction cs with
  | nil => rfl
  | cons c cs ih =>
    obtain ⟨x, y, z, w, hc⟩ := Bytes.exists_ofWord32 c.raw
    have hback := Bytes.ofNat_toNat_ofWord32 c.raw
    rw [hc] at hback
    rw [List.flatMap_cons, Community.octets, hc]
    show (words32? (cs.flatMap Community.octets)).map
      (UInt32.ofNat (Bytes.toNat [x, y, z, w]) :: ·) = _
    rw [ih, hback, Option.map_some, List.map_cons]

theorem length_flatMap_ofWord16 (ws : List UInt16) :
    (ws.flatMap Bytes.ofWord16).length = 2 * ws.length :=
  Bytes.length_flatMap fun w _ => Bytes.length_ofWord16 w

theorem length_flatMap_communities (cs : List Community) :
    (cs.flatMap Community.octets).length = 4 * cs.length :=
  Bytes.length_flatMap fun c _ => Bytes.length_ofWord32 c.raw

theorem segments?_flatMap {segments : List (UInt8 × List UInt16)}
    (h : ∀ s ∈ segments, s.2.length ≤ 255) :
    segments? (segments.flatMap Value.segmentOctets) = some segments := by
  induction segments with
  | nil => rw [List.flatMap_nil, segments?]
  | cons s segments ih =>
    have hcount : (UInt8.ofNat s.2.length).toNat = s.2.length := by
      rw [UInt8.toNat_ofNat']
      exact Nat.mod_eq_of_lt (Nat.lt_succ_of_le (h s (List.mem_cons_self ..)))
    have hlen := length_flatMap_ofWord16 s.2
    rw [List.flatMap_cons, Value.segmentOctets, List.cons_append, List.cons_append, segments?]
    rw [hcount, List.take_left' hlen, List.drop_left' hlen, if_pos hlen, words16?_flatMap,
      ih fun t ht => h t (List.mem_cons_of_mem _ ht)]
    rfl

theorem nextHop6?_octets (hop : NextHop6) : nextHop6? hop.octets = some hop := by
  cases hop with
  | global a =>
    have ha := (Address.v6 a).ofOctets?_octets
    have hlen := a.length_octets
    have hnone : Address.ofOctets? .ipv6 [] = none := rfl
    show nextHop6? a.octets = _
    rw [nextHop6?, List.take_of_length_le (by omega), List.drop_of_length_le (by omega), hnone]
    change Address.ofOctets? .ipv6 a.octets = _ at ha
    rw [ha]
    exact if_pos hlen
  | globalAndLinkLocal a l =>
    have ha : Address.ofOctets? .ipv6 a.octets = some (.v6 a) := (Address.v6 a).ofOctets?_octets
    have hl : Address.ofOctets? .ipv6 l.octets = some (.v6 l) := (Address.v6 l).ofOctets?_octets
    show nextHop6? (a.octets ++ l.octets) = _
    rw [nextHop6?, List.take_left' a.length_octets, List.drop_left' a.length_octets, ha, hl]

theorem toNat_length_nextHop6 (hop : NextHop6) :
    (UInt8.ofNat hop.octets.length).toNat = hop.octets.length := by
  rw [hop.length_octets]
  cases hop <;> rfl

/-! ## reading values -/

theorem Value.ofOctets?_octets {v : Value} (h : v.Writable) : ofOctets? v.kind v.octets = some v := by
  cases v with
  | origin o => cases o <;> rfl
  | asPath segments =>
    show (segments? _).map Value.asPath = _
    rw [octets, segments?_flatMap h, Option.map_some]
  | nextHop a => exact dif_pos a.length_octets
  | multiExitDiscriminator med =>
    show (if (Bytes.ofWord32 med).length = 4 then some _ else none) = _
    rw [if_pos (Bytes.length_ofWord32 med), octets, Bytes.ofNat_toNat_ofWord32]
  | localPreference pref =>
    show (if (Bytes.ofWord32 pref).length = 4 then some _ else none) = _
    rw [if_pos (Bytes.length_ofWord32 pref), octets, Bytes.ofNat_toNat_ofWord32]
  | communities cs =>
    show (words32? _).map _ = _
    rw [octets, words32?_flatMap, Option.map_some, List.map_map]
    exact congrArg (fun cs => some (Value.communities cs)) (List.map_id cs)
  | mpReachable hop routes =>
    have hhop := toNat_length_nextHop6 hop
    show reachable? (0 :: 2 :: 1 :: UInt8.ofNat hop.octets.length ::
      (hop.octets ++ 0 :: routes.flatMap Nlri.record)) = _
    rw [reachable?, hhop, List.drop_left, List.take_left, nextHop6?_octets]
    show (Nlri.read? .ipv6 (routes.flatMap Nlri.record) >>=
      fun routes => pure (Value.mpReachable hop routes)) = _
    rw [Nlri.read?_flatMap_record h]
    rfl
  | mpUnreachable routes =>
    show (Nlri.read? .ipv6 (routes.flatMap Nlri.record)).map Value.mpUnreachable = _
    rw [Nlri.read?_flatMap_record h, Option.map_some]

/-- the reader knows the type and the flags of every kind that is written -/
theorem Kind.ofType?_code (kind : Kind) : ofType? (UInt8.ofNat (Registry.code kind)).toNat
    = some (kind, kind.defaultFlags.bits) := by
  cases kind <;> rfl

theorem Value.ofEncoded?_written {v : Value} (h : v.Writable) :
    ofEncoded? (.ofValue v.written.1 v.written.2) = some v := by
  show Kind.ofType? (UInt8.ofNat (Registry.code v.kind)).toNat >>= _ = _
  rw [Kind.ofType?_code]
  show (if (v.kind.defaultFlags.forLength v.octets.length).bits = v.kind.defaultFlags.bits |||
    (if 255 < v.octets.length then 0x10 else 0) then ofOctets? v.kind v.octets else none) = _
  rw [if_pos (v.kind.bits_forLength _), ofOctets?_octets h]

/-- a list of values is read back from what is written for them -/
theorem mapM_ofEncoded? {vs : List Value} (h : ∀ v ∈ vs, v.Writable) :
    ((vs.map Value.written).map fun w => Encoded.ofValue w.1 w.2).mapM Value.ofEncoded? = some vs := by
  rw [List.map_map]
  apply mapM_map_eq_pure
  intro v hv
  exact Value.ofEncoded?_written (h v hv)

end RouteHealth.Attribute
