import RouteHealth.Proofs.Json.Text
import RouteHealth.Proofs.Lookup
import RouteHealth.Proofs.Traversal

/-!
# Records in JSON

`Json.ReadsFields` says what it means that a record is read field by field: from an object with any of
its members in any order among others, or from an array of its first values.  A reader that looks at a
document only through `Json.fields?` does so if it makes the right record of the values that a document
gives (`Json.readsFields_of_fields`).
-/

namespace RouteHealth.Json

variable {α : Type} {names : List String} {doc members : List (String × Json)} {name : String}
  {value : Json}

/-! ## what a document gives -/

theorem fields?_ofMembers (names : List String) (doc : List (String × Json)) :
    (ofMembers doc).fields? names
      = if ∀ name ∈ names, (doc.map Prod.fst).count name ≤ 1 then some (names.map fun name => doc.lookup name)
        else none := by
  have hkeys : (doc.map fun m => (Literal.text m.1, m.2)).mapM
      (fun m => (key? m.1).map fun k => (k, m.2)) = some doc :=
    mapM_map_eq_pure fun _ _ => rfl
  have hcount (name : String) :
      (doc.filter (·.1 = name)).length = (doc.map Prod.fst).count name := by
    rw [List.count, List.countP_map, List.countP_eq_length_filter]
    rfl
  show Option.bind ((doc.map fun m => (Literal.text m.1, m.2)).mapM
    fun m => (key? m.1).map fun k => (k, m.2)) _ = _
  rw [hkeys, Option.bind_some]
  simp only [List.all_eq_true, decide_eq_true_eq, hcount]
  rfl

/-- a document whose known members are a record's gives the record's value for a name that it has -/
theorem field_lookup {decode : Json → Option α} {missing a : α}
    (hnodup : (members.map Prod.fst).Nodup) (hdoc : ∀ m ∈ doc, m.1 ∈ names → m ∈ members)
    (hname : name ∈ names) (hvalue : (name, value) ∈ members) (hdecode : decode value = some a) :
    field decode missing (doc.lookup name)
      = some (if name ∈ doc.map Prod.fst then a else missing) := by
  split
  next hmem =>
    obtain ⟨j, hj⟩ := exists_lookup hmem
    rw [hj, value_unique hnodup hvalue (hdoc _ (mem_of_lookup hj) hname)]
    exact hdecode
  next hmem =>
    rw [lookup_eq_none hmem]
    rfl

/-- an array of the first values gives what an object of these values gives -/
theorem fields?_array (hnodup : names.Nodup) (hstart : doc.map Prod.fst <+: names) :
    (array (doc.map Prod.snd)).fields? names = (ofMembers doc).fields? names := by
  have hdoc : (doc.map Prod.fst).Nodup := hnodup.sublist hstart.sublist
  have hcount : ∀ name ∈ names, (doc.map Prod.fst).count name ≤ 1 :=
    fun name _ => List.nodup_iff_count_le_one.mp hdoc name
  obtain ⟨rest, rfl⟩ := hstart
  have hfirst : (doc.map Prod.fst).map (fun name => doc.lookup name)
      = (doc.map Prod.snd).map some := by
    rw [List.map_map, List.map_map]
    exact List.map_congr_left fun m hm => lookup_of_mem hdoc hm
  have hrest : rest.map (fun name => doc.lookup name) = List.replicate rest.length none := by
    apply List.map_eq_replicate_iff.mpr
    intro name hname
    apply lookup_eq_none
    intro hmem
    exact List.disjoint_of_nodup_append hnodup hmem hname
  have hlength : (doc.map Prod.snd).length ≤ (doc.map Prod.fst ++ rest).length
      ∧ (doc.map Prod.fst ++ rest).length - (doc.map Prod.snd).length = rest.length := by
    rw [List.length_append, List.length_map, List.length_map]
    omega
  rw [fields?_ofMembers, if_pos hcount, List.map_append, hfirst, hrest]
  show (if (doc.map Prod.snd).length ≤ (doc.map Prod.fst ++ rest).length then _ else _) = _
  rw [if_pos hlength.1, hlength.2]

theorem fields?_of_long {items : List Json} (h : names.length < items.length) :
    (array items).fields? names = none := if_neg (Nat.not_le.mpr h)

/-! ## reading by field -/

/-- A record is read from JSON field by field.  `members` has the fields of a record in order, and
`pick` keeps the fields with the given names and has the default for each of the others. -/
structure ReadsFields (names : List String) (toJson : α → Json) (decode : Json → Option α)
    (members : α → List (String × Json)) (pick : α → List String → α) : Prop where
  toJson_eq : ∀ a, toJson a = ofMembers (members a)
  names_eq : ∀ a, (members a).map Prod.fst = names
  /-- what is written is read back -/
  of_written : ∀ a, (ofText? (toJson a).text).bind decode = some a
  /-- any of the members, in any order and among others -/
  of_members : ∀ a text doc, ofText? text = some (ofMembers doc) →
    (∀ name ∈ names, (doc.map Prod.fst).count name ≤ 1) →
    (∀ m ∈ doc, m.1 ∈ names → m ∈ members a) →
    (ofText? text).bind decode = some (pick a (doc.map Prod.fst))
  of_repeated : ∀ text doc name, ofText? text = some (ofMembers doc) → name ∈ names →
    2 ≤ (doc.map Prod.fst).count name → (ofText? text).bind decode = none
  /-- an array of the first values is read as the object of these members -/
  of_array : ∀ text text' doc, doc.map Prod.fst <+: names →
    ofText? text = some (array (doc.map Prod.snd)) → ofText? text' = some (ofMembers doc) →
    (ofText? text).bind decode = (ofText? text').bind decode
  of_long_array : ∀ text items, ofText? text = some (array items) → names.length < items.length →
    (ofText? text).bind decode = none

theorem readsFields_of_fields {toJson : α → Json} {decode : Json → Option α}
    {members : α → List (String × Json)} {pick : α → List String → α}
    (f : List (Option Json) → Option α) (hdecode : ∀ j, decode j = (j.fields? names).bind f)
    (htoJson : ∀ a, toJson a = ofMembers (members a)) (hnodup : names.Nodup)
    (hnames : ∀ a, (members a).map Prod.fst = names) (hall : ∀ a, pick a names = a)
    (hpick : ∀ (a : α) (doc : List (String × Json)), (∀ m ∈ doc, m.1 ∈ names → m ∈ members a) →
      f (names.map fun name => doc.lookup name) = some (pick a (doc.map Prod.fst))) :
    ReadsFields names toJson decode members pick := by
  have hmembers : ∀ a doc, (∀ name ∈ names, (doc.map Prod.fst).count name ≤ 1) →
      (∀ m ∈ doc, m.1 ∈ names → m ∈ members a) →
      decode (ofMembers doc) = some (pick a (doc.map Prod.fst)) := by
    intro a doc hcount hdoc
    rw [hdecode, fields?_ofMembers, if_pos hcount, Option.bind_some, hpick a doc hdoc]
  constructor
  case toJson_eq => exact htoJson
  case names_eq => exact hnames
  case of_written =>
    intro a
    have hcount : ∀ name ∈ names, ((members a).map Prod.fst).count name ≤ 1 := by
      rw [hnames]
      exact fun name _ => List.nodup_iff_count_le_one.mp hnodup name
    rw [ofText?_text, Option.bind_some, htoJson, hmembers a (members a) hcount fun m hm _ => hm,
      hnames, hall]
  case of_members =>
    intro a text doc htext hcount hdoc
    rw [htext, Option.bind_some, hmembers a doc hcount hdoc]
  case of_repeated =>
    intro text doc name htext hname hrepeated
    have hcount : ¬∀ name ∈ names, (doc.map Prod.fst).count name ≤ 1 :=
      fun h => Nat.not_lt.mpr (h name hname) hrepeated
    rw [htext, Option.bind_some, hdecode, fields?_ofMembers, if_neg hcount, Option.bind_none]
  case of_array =>
    intro text text' doc hstart htext htext'
    rw [htext, htext', Option.bind_some, Option.bind_some, hdecode, hdecode,
      fields?_array hnodup hstart]
  case of_long_array =>
    intro text items htext hlong
    rw [htext, Option.bind_some, hdecode, fields?_of_long hlong, Option.bind_none]

end RouteHealth.Json
