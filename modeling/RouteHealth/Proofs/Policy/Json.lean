import RouteHealth.Policy.Json
import RouteHealth.Proofs.Address.Text
import RouteHealth.Proofs.Json.Record

/-!
# Policies and overrides are read by field

The JSON form of each type of field is read back.  With that, the readers of policies and of overrides
take any of the members of a record and have their own default for each other field
(`Policy.json_faithful`).
-/

namespace RouteHealth

/-! ## the types of the fields -/

namespace Json

theorem nat?_ofNat {bound n : Nat} (h : n ≤ bound) : (ofNat n).nat? bound = some n := if_pos h

theorem word16?_ofNat (n : UInt16) : (ofNat n.toNat).word16? = some n := by
  have hn : n.toNat < 65536 := n.toNat_lt
  rw [word16?, nat?_ofNat (by omega), Option.map_some, UInt16.ofNat_toNat]

theorem word32?_ofNat (n : UInt32) : (ofNat n.toNat).word32? = some n := by
  have hn : n.toNat < 4294967296 := n.toNat_lt
  rw [word32?, nat?_ofNat (by omega), Option.map_some, UInt32.ofNat_toNat]

theorem bool?_bool (b : Bool) : (bool b).bool? = some b := rfl

theorem text?_ofText (s : String) : (ofText s).text? = some s := rfl

end Json

theorem IPv4.ofJson?_toJson (a : IPv4) : ofJson? a.toJson = some a := by
  rw [ofJson?, toJson, Json.text?_ofText, Option.bind_some, ofText?_text]

theorem IPv6.ofJson?_toJson (a : IPv6) : ofJson? a.toJson = some a := by
  rw [ofJson?, toJson, Json.text?_ofText, Option.bind_some, ofText?_text]

theorem NextHop6.ofJson?_toJson (h : NextHop6) : ofJson? h.toJson = some h := by
  cases h with
  | global a =>
    show (IPv6.ofJson? a.toJson).map global = _
    rw [IPv6.ofJson?_toJson, Option.map_some]
  | globalAndLinkLocal a l =>
    show (IPv6.ofJson? a.toJson).bind (fun a => (IPv6.ofJson? l.toJson).bind fun l =>
      some (globalAndLinkLocal a l)) = _
    rw [IPv6.ofJson?_toJson, IPv6.ofJson?_toJson, Option.bind_some, Option.bind_some]

theorem Community.ofJson?_toJson (c : Community) : ofJson? c.toJson = some c := by
  have hraw : c.raw.toNat < 4294967296 := c.raw.toNat_lt
  rw [ofJson?, toJson, Json.nat?_ofNat (by omega), Option.map_some, UInt32.ofNat_toNat]

theorem Community.list?_toJson (cs : List Community) :
    Json.list? ofJson? (.array (cs.map toJson)) = some cs :=
  mapM_map_eq_pure fun c _ => ofJson?_toJson c

/-! ## the records -/

namespace Overrides

/-- the overrides with the named fields, and the default for the others -/
def pick (o : Overrides) (names : List String) : Overrides where
  communities := if "communities" ∈ names then o.communities else []
  med := if "med" ∈ names then o.med else 0
  localPref := if "local_pref" ∈ names then o.localPref else 0

theorem readsFields : Json.ReadsFields fieldNames toJson ofJson? members pick := by
  have hnames : fieldNames.Nodup := by decide
  have hall : ∀ o, pick o fieldNames = o := fun _ => rfl
  refine Json.readsFields_of_fields _ (fun _ => rfl) (fun _ => rfl) hnames (fun _ => rfl) hall ?_
  intro o doc hdoc
  have hnodup : (o.members.map Prod.fst).Nodup := hnames
  simp only [fieldNames, List.map_cons, List.map_nil, Option.bind_eq_bind, Option.bind_some,
    Json.field_lookup hnodup hdoc (show "communities" ∈ fieldNames by decide) (by simp [members])
      (Community.list?_toJson o.communities),
    Json.field_lookup hnodup hdoc (show "med" ∈ fieldNames by decide) (by simp [members])
      (Json.word32?_ofNat o.med),
    Json.field_lookup hnodup hdoc (show "local_pref" ∈ fieldNames by decide) (by simp [members])
      (Json.word32?_ofNat o.localPref)]
  rfl

end Overrides

namespace Policy

/-- the policy with the named fields, and the default for the others -/
def pick (p : Policy) (names : List String) : Policy where
  nextHop := if "next_hop" ∈ names then p.nextHop else .unspecified
  nextHop6 := if "next_hop6" ∈ names then p.nextHop6 else .global .unspecified
  asn := if "asn" ∈ names then p.asn else 0
  med := if "med" ∈ names then p.med else 0
  communities := if "communities" ∈ names then p.communities else []
  localPref := if "local_pref" ∈ names then p.localPref else 0
  multiprotocol := if "multiprotocol" ∈ names then p.multiprotocol else false
  peerAsn := if "peer_asn" ∈ names then p.peerAsn else 0

theorem readsFields : Json.ReadsFields fieldNames toJson ofJson? members pick := by
  have hnames : fieldNames.Nodup := by decide
  have hall : ∀ p, pick p fieldNames = p := fun _ => rfl
  refine Json.readsFields_of_fields _ (fun _ => rfl) (fun _ => rfl) hnames (fun _ => rfl) hall ?_
  intro p doc hdoc
  have hnodup : (p.members.map Prod.fst).Nodup := hnames
  simp only [fieldNames, List.map_cons, List.map_nil, Option.bind_eq_bind, Option.bind_some,
    Json.field_lookup hnodup hdoc (show "next_hop" ∈ fieldNames by decide) (by simp [members])
      p.nextHop.ofJson?_toJson,
    Json.field_lookup hnodup hdoc (show "next_hop6" ∈ fieldNames by decide) (by simp [members])
      p.nextHop6.ofJson?_toJson,
    Json.field_lookup hnodup hdoc (show "asn" ∈ fieldNames by decide) (by simp [members])
      (Json.word16?_ofNat p.asn),
    Json.field_lookup hnodup hdoc (show "med" ∈ fieldNames by decide) (by simp [members])
      (Json.word32?_ofNat p.med),
    Json.field_lookup hnodup hdoc (show "communities" ∈ fieldNames by decide) (by simp [members])
      (Community.list?_toJson p.communities),
    Json.field_lookup hnodup hdoc (show "local_pref" ∈ fieldNames by decide) (by simp [members])
      (Json.word32?_ofNat p.localPref),
    Json.field_lookup hnodup hdoc (show "multiprotocol" ∈ fieldNames by decide) (by simp [members])
      (Json.bool?_bool p.multiprotocol),
    Json.field_lookup hnodup hdoc (show "peer_asn" ∈ fieldNames by decide) (by simp [members])
      (Json.word16?_ofNat p.peerAsn)]
  rfl

/-- **the JSON form of policies and overrides is faithful, and defaults field by field** -/
theorem json_faithful :
    (∀ j : Json, Json.ofText? j.text = some j) ∧
    Json.ReadsFields Policy.fieldNames Policy.toJson Policy.ofJson? Policy.members Policy.pick ∧
    Json.ReadsFields Overrides.fieldNames Overrides.toJson Overrides.ofJson? Overrides.members
      Overrides.pick :=
  ⟨Json.ofText?_text, readsFields, Overrides.readsFields⟩

/-- two fields out of order, around a member that no policy has -/
def reorderedMembers : List (String × Json) :=
  [("peer_asn", .ofNat 65001), ("color", .array [.null]), ("asn", .ofNat 65000)]

theorem json_faithful_reordered :
    (Json.ofText? (Json.ofMembers reorderedMembers).text).bind Policy.ofJson?
      = some { asn := 65000, peerAsn := 65001 } := by
  obtain ⟨htext, hpolicy, -⟩ := json_faithful
  have hmembers : ∀ m ∈ reorderedMembers, m.1 ∈ fieldNames →
      m ∈ ({ asn := 65000, med := 7, peerAsn := 65001 } : Policy).members := by
    simp [reorderedMembers, fieldNames, members]
  exact hpolicy.of_members _ _ reorderedMembers (htext _) (by decide) hmembers

end Policy

end RouteHealth
