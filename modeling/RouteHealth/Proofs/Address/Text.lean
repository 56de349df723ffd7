import Mathlib.Data.List.TakeWhile
import RouteHealth.Address.Text
import RouteHealth.Proofs.Address
import RouteHealth.Proofs.Bytes
import RouteHealth.Proofs.Digits
import RouteHealth.Proofs.Traversal

/-!
# The text of an address is read back

Groups joined by a separator come apart again where no group holds the separator, so an IPv4 address is
read back from its four octets (`IPv4.ofText?_text`).  The text of an IPv6 address has one of three
forms; in the one with `::` the two sides of the elision are found (`IPv6.cutAtElision?_groupChars_append`)
and the groups between them are zeros (`IPv6.longestZeros_spec`).  `IPv6.ofText?_text` puts them
together.
-/

namespace RouteHealth

namespace IPv4

theorem octet?_chars (o : UInt8) : octet? (Decimal.chars o.toNat) = some o := by
  have ho : o.toNat < 256 := o.toNat_lt
  show (Decimal.ofDigits? (Decimal.chars o.toNat)).bind _ = _
  rw [Decimal.ofDigits?_chars, Option.bind_some, if_pos ⟨by omega, rfl⟩, UInt8.ofNat_toNat]

theorem notMem_chars_of_not_isDigit {c : Char} (h : c.isDigit = false) (n : Nat) :
    c ∉ Decimal.chars n := by
  intro hmem
  rw [Decimal.isDigit_of_mem_chars hmem] at h
  cases h

theorem splitOn_chars (a : IPv4) :
    a.chars.splitOn '.' = a.octets.map fun o => Decimal.chars o.toNat := by
  apply List.splitOn_intercalate
  · intro piece hpiece
    obtain ⟨o, -, rfl⟩ := List.mem_map.mp hpiece
    exact notMem_chars_of_not_isDigit (by decide) _
  · rw [Ne, List.map_eq_nil_iff]
    apply List.ne_nil_of_length_eq_add_one
    exact a.length_octets

theorem ofChars?_chars (a : IPv4) : ofChars? a.chars = some a := by
  have hoctets : (a.chars.splitOn '.').mapM octet? = some a.octets := by
    rw [splitOn_chars]
    apply mapM_map_eq_pure
    intro o _
    exact octet?_chars o
  obtain ⟨b, c, d, e, h⟩ := a.exists_octets
  rw [h] at hoctets
  rw [ofChars?, hoctets]
  exact congrArg some (IPv4.ext h.symm)

theorem ofText?_text (a : IPv4) : ofText? a.text = some a := by
  rw [ofText?, text, String.toList_ofList, ofChars?_chars]

theorem colon_notMem_chars (a : IPv4) : ':' ∉ a.chars := by
  have hdigits := notMem_chars_of_not_isDigit (show ':'.isDigit = false by decide)
  obtain ⟨b, c, d, e, h⟩ := a.exists_octets
  rw [chars, h]
  simp [List.intercalate, List.intersperse, hdigits]

theorem length_chars (a : IPv4) : 7 ≤ a.chars.length := by
  obtain ⟨b, c, d, e, h⟩ := a.exists_octets
  have hb := List.length_pos_of_ne_nil (Decimal.chars_ne_nil b.toNat)
  have hc := List.length_pos_of_ne_nil (Decimal.chars_ne_nil c.toNat)
  have hd := List.length_pos_of_ne_nil (Decimal.chars_ne_nil d.toNat)
  have he := List.length_pos_of_ne_nil (Decimal.chars_ne_nil e.toNat)
  rw [chars, h]
  simp only [List.map_cons, List.map_nil, List.intercalate, List.intersperse, List.flatten_cons,
    List.flatten_nil, List.length_append, List.length_cons, List.length_nil]
  omega

end IPv4

namespace IPv6

/-! ## groups and octets -/

theorem pairs_flatMap {bs : Bytes} (h : bs.length % 2 = 0) :
    (pairs bs).flatMap (Bytes.ofNat 2) = bs := by
  fun_induction pairs bs with
  | case1 hi lo rest ih =>
    have hrest : rest.length % 2 = 0 := by
      rw [List.length_cons, List.length_cons] at h
      omega
    rw [List.flatMap_cons, ← Bytes.toNat_pair, ih hrest]
    exact congrArg (· ++ rest) (Bytes.ofNat_toNat [hi, lo])
  | case2 bs hne =>
    match bs, hne with
    | [], _ => rfl
    | [b], _ => simp at h
    | hi :: lo :: rest, hne => exact absurd rfl (hne hi lo rest)

theorem length_pairs (bs : Bytes) : (pairs bs).length = bs.length / 2 := by
  fun_induction pairs bs with
  | case1 hi lo rest ih =>
    rw [List.length_cons, List.length_cons, List.length_cons, ih]
    omega
  | case2 bs hne =>
    match bs, hne with
    | [], _ => rfl
    | [b], _ => simp
    | hi :: lo :: rest, hne => exact absurd rfl (hne hi lo rest)

theorem lt_of_mem_pairs {bs : Bytes} : ∀ g ∈ pairs bs, g < 65536 := by
  fun_induction pairs bs with
  | case1 hi lo rest ih =>
    have hhi : hi.toNat < 256 := hi.toNat_lt
    have hlo : lo.toNat < 256 := lo.toNat_lt
    intro g hg
    rcases List.mem_cons.mp hg with rfl | hg
    · omega
    · exact ih g hg
  | case2 => nofun

theorem length_groups (a : IPv6) : a.groups.length = 8 := by
  rw [groups, length_pairs, a.length_octets]

theorem ofGroups?_groups (a : IPv6) : ofGroups? a.groups = some a := by
  have hoctets : a.groups.flatMap (Bytes.ofNat 2) = a.octets :=
    pairs_flatMap (by rw [a.length_octets])
  have hlength : (a.groups.flatMap (Bytes.ofNat 2)).length = 16 := by
    rw [hoctets, a.length_octets]
  rw [ofGroups?, dif_pos hlength]
  exact congrArg some (IPv6.ext hoctets)

/-! ## runs of groups -/

theorem colon_notMem_toDigits (g : Nat) : ':' ∉ Nat.toDigits 16 g := by
  intro h
  have hsome := Hex.isSome_value?_of_mem_toDigits h
  revert hsome
  decide

theorem group?_toDigits {g : Nat} (h : g < 65536) : group? (Nat.toDigits 16 g) = some g := by
  have hlength : 1 ≤ (Nat.toDigits 16 g).length ∧ (Nat.toDigits 16 g).length ≤ 4 :=
    ⟨Nat.length_toDigits_pos, (Nat.length_toDigits_le_iff (by decide) (by decide)).mpr h⟩
  rw [group?, if_pos hlength, Hex.number?_toDigits]

theorem splitOn_groupChars {gs : List Nat} (hne : gs ≠ []) :
    (groupChars gs).splitOn ':' = gs.map (Nat.toDigits 16) := by
  apply List.splitOn_intercalate
  · intro piece hpiece
    obtain ⟨g, -, rfl⟩ := List.mem_map.mp hpiece
    exact colon_notMem_toDigits g
  · rwa [Ne, List.map_eq_nil_iff]

theorem groupChars_cons_cons (g g' : Nat) (gs : List Nat) :
    groupChars (g :: g' :: gs) = Nat.toDigits 16 g ++ ':' :: groupChars (g' :: gs) := by
  rw [groupChars, List.map_cons, List.map_cons, List.intercalate_cons_cons, List.append_assoc]
  rfl

/-- groups start with a digit, which is no colon -/
theorem exists_groupChars_cons (g : Nat) (gs : List Nat) :
    ∃ c cs, groupChars (g :: gs) = c :: cs ∧ c ≠ ':' := by
  obtain ⟨c, cs, h⟩ := List.exists_cons_of_ne_nil (Nat.toDigits_ne_nil (n := g) (b := 16))
  have hc : c ≠ ':' := by
    rintro rfl
    exact colon_notMem_toDigits g (h ▸ List.mem_cons_self ..)
  cases gs with
  | nil => exact ⟨c, cs, (List.intercalate_singleton).trans h, hc⟩
  | cons g' gs =>
    rw [groupChars_cons_cons, h]
    exact ⟨c, _, rfl, hc⟩

theorem groupChars_ne_nil {gs : List Nat} (hne : gs ≠ []) : groupChars gs ≠ [] := by
  obtain ⟨g, gs, rfl⟩ := List.exists_cons_of_ne_nil hne
  obtain ⟨c, cs, h, -⟩ := exists_groupChars_cons g gs
  rw [h]
  exact List.cons_ne_nil c cs

section

variable {gs : List Nat} (hgs : ∀ g ∈ gs, g < 65536)

include hgs

theorem groups?_groupChars : groups? (groupChars gs) = some gs := by
  by_cases hnil : gs = []
  · rw [hnil]
    rfl
  · rw [groups?, if_neg (groupChars_ne_nil hnil), splitOn_groupChars hnil]
    apply mapM_map_eq_pure
    intro g hg
    exact group?_toDigits (hgs g hg)

theorem pieces?_toDigits : pieces? (gs.map (Nat.toDigits 16)) = some gs := by
  induction gs with
  | nil => rfl
  | cons g gs ih =>
    have hg := group?_toDigits (hgs g (List.mem_cons_self ..))
    have hrest := ih fun g' hg' => hgs g' (List.mem_cons_of_mem _ hg')
    cases gs with
    | nil =>
      show ((group? (Nat.toDigits 16 g)).map ([·]) <|> _) = _
      rw [hg]
      rfl
    | cons g' gs =>
      show (group? (Nat.toDigits 16 g)).bind (fun x =>
        (pieces? ((g' :: gs).map (Nat.toDigits 16))).bind fun xs => some (x :: xs)) = _
      rw [hg, hrest]
      rfl

theorem groupsAndQuad?_groupChars : groupsAndQuad? (groupChars gs) = some gs := by
  by_cases hnil : gs = []
  · rw [hnil]
    rfl
  · rw [groupsAndQuad?, if_neg (groupChars_ne_nil hnil), splitOn_groupChars hnil,
      pieces?_toDigits hgs]

end

/-! ## the elision -/

theorem cutAtElision?_cons {c : Char} {rest : List Char} (h : c ≠ ':' ∨ ':' ∉ rest.head?) :
    cutAtElision? (c :: rest) = (cutAtElision? rest).map (Prod.map (c :: ·) id) := by
  rw [cutAtElision?]
  · rfl
  · rintro cs rfl rfl
    rcases h with h | h
    · exact h rfl
    · exact h rfl

/-- a part without colons holds no part of a `::` -/
theorem cutAtElision?_append_of_notMem {ds : List Char} (h : ':' ∉ ds) (rest : List Char) :
    cutAtElision? (ds ++ rest) = (cutAtElision? rest).map (Prod.map (ds ++ ·) id) := by
  induction ds with
  | nil =>
    show cutAtElision? rest = (cutAtElision? rest).map (Prod.map id id)
    rw [Prod.map_id, Option.map_id, id]
  | cons d ds ih =>
    rw [List.mem_cons, not_or] at h
    have hd : d ≠ ':' := fun heq => h.1 heq.symm
    rw [List.cons_append, cutAtElision?_cons (.inl hd), ih h.2, Option.map_map]
    rfl

/-- groups hold no `::` and do not end in a colon -/
theorem cutAtElision?_groupChars_append (gs : List Nat) (rest : List Char) :
    cutAtElision? (groupChars gs ++ rest)
      = (cutAtElision? rest).map (Prod.map (groupChars gs ++ ·) id) := by
  induction gs with
  | nil => exact cutAtElision?_append_of_notMem List.not_mem_nil rest
  | cons g gs ih =>
    cases gs with
    | nil =>
      rw [groupChars, List.map_singleton, List.intercalate_singleton]
      exact cutAtElision?_append_of_notMem (colon_notMem_toDigits g) rest
    | cons g' gs =>
      have hcolon : ':' ∉ (groupChars (g' :: gs) ++ rest).head? := by
        obtain ⟨c, cs, h, hc⟩ := exists_groupChars_cons g' gs
        rw [h]
        intro hmem
        exact hc (Option.some.inj hmem)
      rw [groupChars_cons_cons, List.append_assoc, List.cons_append,
        cutAtElision?_append_of_notMem (colon_notMem_toDigits g), cutAtElision?_cons (.inr hcolon),
        ih, Option.map_map, Option.map_map]
      congr 1
      funext sides
      exact Prod.ext (by simp) rfl

/-- the run of zeros that the writer elides is one that stands where it says -/
theorem longestZeros_spec (gs : List Nat) :
    (longestZeros gs).2 = 0 ∨ (longestZeros gs).2 = zerosFrom gs (longestZeros gs).1 := by
  unfold longestZeros
  apply List.foldlRecOn (motive := fun run : Nat × Nat => run.2 = 0 ∨ run.2 = zerosFrom gs run.1)
  · exact .inl rfl
  · intro best hbest i _
    split
    · exact .inr rfl
    · exact hbest

theorem take_zeros_drop (gs : List Nat) (start : Nat) :
    gs.take start ++ List.replicate (zerosFrom gs start) 0 ++ gs.drop (start + zerosFrom gs start)
      = gs := by
  have hzeros : (gs.drop start).takeWhile (· = 0) = List.replicate (zerosFrom gs start) 0 := by
    apply List.eq_replicate_of_mem
    intro g hg
    simpa using List.mem_takeWhile_imp hg
  have hrest : (gs.drop start).dropWhile (· = 0) = gs.drop (start + zerosFrom gs start) := by
    have hsplit := List.takeWhile_append_dropWhile (p := (· = 0)) (l := gs.drop start)
    have hdrop := congrArg (List.drop (zerosFrom gs start)) hsplit
    rw [zerosFrom, List.drop_left, ← zerosFrom, List.drop_drop] at hdrop
    exact hdrop
  rw [← hzeros, ← hrest, List.append_assoc, List.takeWhile_append_dropWhile, List.take_append_drop]

/-! ## the three forms -/

theorem groups_of_mapped {a : IPv6} {quad : IPv4} (h : a.mapped? = some quad) :
    a.groups = List.replicate 5 0 ++ 65535 :: pairs quad.octets := by
  have hoctets : a.octets = mappedStart ++ quad.octets := by
    unfold mapped? at h
    split at h
    next hstart =>
      cases h
      rw [← hstart, List.take_append_drop]
    next => cases h
  rw [groups, hoctets]
  rfl

theorem groupsAndQuad?_quad (a : IPv4) :
    groupsAndQuad? (Nat.toDigits 16 65535 ++ ':' :: a.chars) = some (65535 :: pairs a.octets) := by
  have hpieces : (Nat.toDigits 16 65535 ++ ':' :: a.chars).splitOn ':'
      = [Nat.toDigits 16 65535, a.chars] := by
    have hcolons : ∀ piece ∈ [Nat.toDigits 16 65535, a.chars], ':' ∉ piece := by
      intro piece hpiece
      rcases List.mem_pair.mp hpiece with rfl | rfl
      · exact colon_notMem_toDigits 65535
      · exact a.colon_notMem_chars
    have hsplit := List.splitOn_intercalate ':' hcolons (List.cons_ne_nil _ _)
    rwa [List.intercalate_cons_cons, List.intercalate_singleton, List.append_assoc] at hsplit
  have hgroup : group? a.chars = none := by
    have hlength := a.length_chars
    rw [group?, if_neg (by omega)]
  have hne : Nat.toDigits 16 65535 ++ ':' :: a.chars ≠ [] :=
    List.append_ne_nil_of_right_ne_nil _ (List.cons_ne_nil _ _)
  rw [groupsAndQuad?, if_neg hne, hpieces]
  show (group? (Nat.toDigits 16 65535)).bind (fun g =>
    ((group? a.chars).map ([·]) <|> (IPv4.ofChars? a.chars).map fun b => pairs b.octets).bind
      fun gs => some (g :: gs)) = _
  rw [group?_toDigits (by decide), hgroup, IPv4.ofChars?_chars]
  rfl

/-- groups around an elision are read with zeros between them -/
theorem ofChars?_elided {front back : List Nat} {cs : List Char}
    (hfront : ∀ g ∈ front, g < 65536) (hback : groupsAndQuad? cs = some back)
    (hlength : front.length + back.length < 8) :
    ofChars? (groupChars front ++ ':' :: ':' :: cs)
      = ofGroups? (front ++ List.replicate (8 - (front.length + back.length)) 0 ++ back) := by
  have hcut : cutAtElision? (groupChars front ++ ':' :: ':' :: cs) = some (groupChars front, cs) := by
    rw [cutAtElision?_groupChars_append]
    show some (groupChars front ++ [], cs) = _
    rw [List.append_nil]
  rw [ofChars?, hcut]
  show (groups? (groupChars front)).bind (fun head => (groupsAndQuad? cs).bind fun tail =>
    if head.length + tail.length < 8 then
      ofGroups? (head ++ List.replicate (8 - (head.length + tail.length)) 0 ++ tail)
    else none) = _
  rw [groups?_groupChars hfront, hback, Option.bind_some, Option.bind_some, if_pos hlength]

theorem ofChars?_groupChars {gs : List Nat} (hgs : ∀ g ∈ gs, g < 65536) :
    ofChars? (groupChars gs) = ofGroups? gs := by
  have hcut : cutAtElision? (groupChars gs) = none := by
    have h := cutAtElision?_groupChars_append gs []
    rwa [List.append_nil] at h
  rw [ofChars?, hcut]
  show (groupsAndQuad? (groupChars gs)).bind ofGroups? = _
  rw [groupsAndQuad?_groupChars hgs, Option.bind_some]

theorem ofChars?_chars (a : IPv6) : ofChars? a.chars = some a := by
  have hgs : ∀ g ∈ a.groups, g < 65536 := lt_of_mem_pairs
  unfold chars
  split
  next quad hmapped =>
    have hlength : (pairs quad.octets).length = 2 := by rw [length_pairs, quad.length_octets]
    have hread := @ofChars?_elided [] _ _ nofun (groupsAndQuad?_quad quad) (by
      rw [List.length_nil, List.length_cons, hlength]
      decide)
    rw [List.length_cons, hlength] at hread
    rw [← ofGroups?_groups, groups_of_mapped hmapped]
    exact hread
  next =>
    have hzeros := longestZeros_spec a.groups
    generalize longestZeros a.groups = run at hzeros ⊢
    obtain ⟨start, length⟩ := run
    show ofChars? (if 2 ≤ length then
      groupChars (a.groups.take start) ++ [':', ':'] ++ groupChars (a.groups.drop (start + length))
      else groupChars a.groups) = _
    split
    next helided =>
      obtain rfl : length = zerosFrom a.groups start :=
        hzeros.resolve_left (Nat.ne_zero_of_lt helided)
      have hfront : ∀ g ∈ a.groups.take start, g < 65536 :=
        fun g hg => hgs g (List.mem_of_mem_take hg)
      have hback : ∀ g ∈ a.groups.drop (start + zerosFrom a.groups start), g < 65536 :=
        fun g hg => hgs g (List.mem_of_mem_drop hg)
      have hparts := take_zeros_drop a.groups start
      have hlength := congrArg List.length hparts
      rw [List.length_append, List.length_append, List.length_replicate, a.length_groups] at hlength
      rw [List.append_assoc]
      refine (ofChars?_elided hfront (groupsAndQuad?_groupChars hback) (by omega)).trans ?_
      -- the reader puts in as many zeros as the writer left out
      rw [← a.ofGroups?_groups]
      conv_rhs => rw [← hparts]
      congr 4
      omega
    next => rw [ofChars?_groupChars hgs, ofGroups?_groups]

theorem ofText?_text (a : IPv6) : ofText? a.text = some a := by
  rw [ofText?, text, String.toList_ofList, ofChars?_chars]

end IPv6
end RouteHealth
