import RouteHealth.Proofs.Json.Scalar

/-!
# The text of a JSON value is read back

`Json.ofText?_text`: the reader takes every value back from the text that the writer gives it.  Its fuel
is at least the length of the text, and each call spends less of it than of the text (`Json.reads`).  A
call for a value, for items and for members is each read back with one unit more than the calls it makes
(`Json.readsValues_succ`, `Json.readsItems_succ`, `Json.readsMembers_succ`).
-/

namespace RouteHealth

namespace Json

theorem itemsChars_cons_cons (item item' : Json) (items : List Json) :
    itemsChars (item :: item' :: items) = item.chars ++ ',' :: itemsChars (item' :: items) := by
  rw [itemsChars]
  nofun

theorem membersChars_cons_cons (key : Literal) (value : Json) (member : Literal × Json)
    (members : List (Literal × Json)) : membersChars ((key, value) :: member :: members)
      = key.chars ++ ':' :: (value.chars ++ ',' :: membersChars (member :: members)) := by
  rw [membersChars]
  · simp
  · nofun

/-- a value starts with no blank and with no closing bracket -/
theorem exists_chars_cons (j : Json) :
    ∃ c cs, j.chars = c :: cs ∧ isJsonBlank c = false ∧ c ≠ ']' := by
  cases j with
  | null => exact ⟨'n', _, rfl, by decide, by decide⟩
  | bool b =>
    cases b with
    | false => exact ⟨'f', _, rfl, by decide, by decide⟩
    | true => exact ⟨'t', _, rfl, by decide, by decide⟩
  | number n =>
    obtain ⟨c, cs, h, hc⟩ := n.exists_chars_cons
    exact ⟨c, cs, h, Numeral.notBlank_of_starts hc, Numeral.ne_of_starts hc (by decide)⟩
  | string s => exact ⟨'"', s.inner, s.chars_eq, by decide, by decide⟩
  | array items => exact ⟨'[', _, rfl, by decide, by decide⟩
  | object members => exact ⟨'\x7b', _, rfl, by decide, by decide⟩

theorem exists_itemsChars_cons (item : Json) (items : List Json) :
    ∃ c cs, itemsChars (item :: items) = c :: cs ∧ isJsonBlank c = false ∧ c ≠ ']' := by
  obtain ⟨c, cs, h, hc⟩ := item.exists_chars_cons
  cases items with
  | nil => exact ⟨c, cs, h, hc⟩
  | cons item' items =>
    rw [itemsChars_cons_cons, h]
    exact ⟨c, _, rfl, hc⟩

theorem value?_numeral {c : Char} (h : c.isDigit ∨ c = '-') (fuel : Nat) (cs : List Char) :
    value? (fuel + 1) (c :: cs)
      = (Numeral.ofChars? (c :: cs)).map fun (n, rest) => (number n, rest) := by
  rw [value?, skipBlanks_cons (Numeral.notBlank_of_starts h)]
  split
  next heq => exact absurd (List.cons.inj heq).1 (Numeral.ne_of_starts h (by decide))
  next heq => exact absurd (List.cons.inj heq).1 (Numeral.ne_of_starts h (by decide))
  next heq => exact absurd (List.cons.inj heq).1 (Numeral.ne_of_starts h (by decide))
  next heq => exact absurd (List.cons.inj heq).1 (Numeral.ne_of_starts h (by decide))
  next heq => exact absurd (List.cons.inj heq).1 (Numeral.ne_of_starts h (by decide))
  next heq => exact absurd (List.cons.inj heq).1 (Numeral.ne_of_starts h (by decide))
  next => rfl

theorem exists_membersChars_cons (member : Literal × Json) (members : List (Literal × Json)) :
    ∃ cs, membersChars (member :: members) = '"' :: cs := by
  obtain ⟨key, value⟩ := member
  cases members with
  | nil =>
    rw [membersChars, key.chars_eq]
    exact ⟨_, rfl⟩
  | cons member members =>
    rw [membersChars_cons_cons, key.chars_eq]
    exact ⟨_, rfl⟩

theorem value?_array (fuel : Nat) (item : Json) (items : List Json) (rest : List Char) :
    value? (fuel + 1) ('[' :: (itemsChars (item :: items) ++ rest))
      = items? fuel [] (itemsChars (item :: items) ++ rest) := by
  obtain ⟨c, cs, h, hblank, hclose⟩ := exists_itemsChars_cons item items
  rw [h, List.cons_append, value?, skipBlanks_cons (by decide)]
  simp only [skipBlanks_cons hblank]
  split
  next heq => exact absurd (List.cons.inj heq).1 hclose
  next => rfl

theorem value?_object (fuel : Nat) (member : Literal × Json) (members : List (Literal × Json))
    (rest : List Char) : value? (fuel + 1) ('\x7b' :: (membersChars (member :: members) ++ rest))
      = members? fuel [] (membersChars (member :: members) ++ rest) := by
  obtain ⟨cs, h⟩ := exists_membersChars_cons member members
  rw [h, List.cons_append, value?, skipBlanks_cons (by decide)]
  simp only [skipBlanks_cons (show isJsonBlank '"' = false by decide)]
  split
  next heq => exact absurd (List.cons.inj heq).1 (by decide)
  next => rfl

section

variable {fuel : Nat} {cs rest : List Char} {j : Json}

theorem items?_of_comma (done : List Json) (h : value? fuel cs = some (j, ',' :: rest)) :
    items? (fuel + 1) done cs = items? fuel (j :: done) rest := by
  rw [items?, h]
  rfl

theorem items?_of_close (done : List Json) (h : value? fuel cs = some (j, ']' :: rest)) :
    items? (fuel + 1) done cs = some (array (j :: done).reverse, rest) := by
  rw [items?, h]
  rfl

theorem members?_of_comma (done : List (Literal × Json)) (key : Literal)
    (h : value? fuel cs = some (j, ',' :: rest)) :
    members? (fuel + 1) done (key.chars ++ ':' :: cs) = members? fuel ((key, j) :: done) rest := by
  rw [key.chars_eq, List.cons_append, members?, skipBlanks_cons (by decide)]
  simp only [Literal.ofChars?_append]
  rw [skipBlanks_cons (by decide)]
  simp only [h]
  rfl

theorem members?_of_close (done : List (Literal × Json)) (key : Literal)
    (h : value? fuel cs = some (j, '\x7d' :: rest)) :
    members? (fuel + 1) done (key.chars ++ ':' :: cs)
      = some (object ((key, j) :: done).reverse, rest) := by
  rw [key.chars_eq, List.cons_append, members?, skipBlanks_cons (by decide)]
  simp only [Literal.ofChars?_append]
  rw [skipBlanks_cons (by decide)]
  simp only [h]
  rfl

end

/-- with this fuel the reader takes back every value that is no longer than it -/
def ReadsValues (fuel : Nat) : Prop :=
  ∀ (j : Json) (rest : List Char), j.chars.length ≤ fuel → EndsValue rest →
    value? fuel (j.chars ++ rest) = some (j, rest)

def ReadsItems (fuel : Nat) : Prop :=
  ∀ (item : Json) (items done : List Json) (rest : List Char),
    (itemsChars (item :: items)).length < fuel →
    items? fuel done (itemsChars (item :: items) ++ ']' :: rest)
      = some (array (done.reverse ++ item :: items), rest)

def ReadsMembers (fuel : Nat) : Prop :=
  ∀ (member : Literal × Json) (members done : List (Literal × Json)) (rest : List Char),
    (membersChars (member :: members)).length < fuel →
    members? fuel done (membersChars (member :: members) ++ '\x7d' :: rest)
      = some (object (done.reverse ++ member :: members), rest)

theorem readsItems_succ {fuel : Nat} (hvalues : ReadsValues fuel) (hitems : ReadsItems fuel) :
    ReadsItems (fuel + 1) := by
  intro item items done rest hfuel
  cases items with
  | nil =>
    have hone : itemsChars [item] = item.chars := by rw [itemsChars]
    rw [hone] at hfuel
    have hitem := hvalues item (']' :: rest) (Nat.le_of_lt_succ hfuel) (.cons (by simp) rest)
    rw [hone, items?_of_close done hitem, List.reverse_cons]
  | cons item' items =>
    rw [itemsChars_cons_cons, List.length_append, List.length_cons] at hfuel
    have hitem := hvalues item (',' :: (itemsChars (item' :: items) ++ ']' :: rest)) (by omega)
      (.cons (by simp) _)
    rw [itemsChars_cons_cons, List.append_assoc, List.cons_append, items?_of_comma done hitem,
      hitems item' items (item :: done) rest (by omega), List.reverse_cons, List.append_assoc]
    rfl

theorem readsMembers_succ {fuel : Nat} (hvalues : ReadsValues fuel)
    (hmembers : ReadsMembers fuel) : ReadsMembers (fuel + 1) := by
  rintro ⟨key, value⟩ members done rest hfuel
  cases members with
  | nil =>
    have hone : membersChars [(key, value)] = key.chars ++ ':' :: value.chars := by rw [membersChars]
    rw [hone, List.length_append, List.length_cons] at hfuel
    have hvalue := hvalues value ('\x7d' :: rest) (by omega) (.cons (by simp) rest)
    rw [hone, List.append_assoc, List.cons_append, members?_of_close done key hvalue,
      List.reverse_cons]
  | cons member members =>
    rw [membersChars_cons_cons, List.length_append, List.length_cons, List.length_append,
      List.length_cons] at hfuel
    have hvalue := hvalues value (',' :: (membersChars (member :: members) ++ '\x7d' :: rest))
      (by omega) (.cons (by simp) _)
    rw [membersChars_cons_cons, List.append_assoc, List.cons_append, List.append_assoc,
      List.cons_append, members?_of_comma done key hvalue,
      hmembers member members ((key, value) :: done) rest (by omega), List.reverse_cons,
      List.append_assoc]
    rfl

theorem readsValues_succ {fuel : Nat} (hitems : ReadsItems fuel) (hmembers : ReadsMembers fuel) :
    ReadsValues (fuel + 1) := by
  intro j rest hfuel hrest
  cases j with
  | null => rfl
  | bool b =>
    cases b with
    | false => rfl
    | true => rfl
  | number n =>
    have hread := Numeral.ofChars?_append n hrest
    obtain ⟨c, cs, h, hc⟩ := n.exists_chars_cons
    show value? (fuel + 1) (n.chars ++ rest) = _
    rw [h, List.cons_append] at hread ⊢
    rw [value?_numeral hc, hread]
    rfl
  | string s =>
    show value? (fuel + 1) (s.chars ++ rest) = _
    rw [s.chars_eq, List.cons_append, value?, skipBlanks_cons (by decide)]
    show (Literal.ofChars? (s.inner ++ rest)).map _ = _
    rw [Literal.ofChars?_append]
    rfl
  | array items =>
    cases items with
    | nil => rfl
    | cons item items =>
      have hchars : (array (item :: items)).chars
          = '[' :: (itemsChars (item :: items) ++ [']']) := by rw [chars, List.cons_append]
      rw [hchars, List.length_cons, List.length_append, List.length_singleton] at hfuel
      rw [hchars, List.cons_append, List.append_assoc, List.singleton_append, value?_array,
        hitems item items [] rest (by omega)]
      rfl
  | object members =>
    cases members with
    | nil => rfl
    | cons member members =>
      have hchars : (object (member :: members)).chars
          = '\x7b' :: (membersChars (member :: members) ++ ['\x7d']) := by
        rw [chars, List.cons_append]
      rw [hchars, List.length_cons, List.length_append, List.length_singleton] at hfuel
      rw [hchars, List.cons_append, List.append_assoc, List.singleton_append, value?_object,
        hmembers member members [] rest (by omega)]
      rfl

/-- each call takes one unit of fuel and leaves at least one character fewer to be read -/
theorem reads (fuel : Nat) : ReadsValues fuel ∧ ReadsItems fuel ∧ ReadsMembers fuel := by
  induction fuel with
  | zero =>
    refine ⟨?_, ?_, ?_⟩
    · intro j rest hfuel
      obtain ⟨c, cs, h, -⟩ := j.exists_chars_cons
      rw [h] at hfuel
      cases hfuel
    · intro _ _ _ _ hfuel
      cases hfuel
    · intro _ _ _ _ hfuel
      cases hfuel
  | succ fuel ih =>
    obtain ⟨hvalues, hitems, hmembers⟩ := ih
    exact ⟨readsValues_succ hitems hmembers, readsItems_succ hvalues hitems,
      readsMembers_succ hvalues hmembers⟩

theorem ofChars?_chars (j : Json) : ofChars? j.chars = some j := by
  have hread := (reads (2 * j.chars.length + 1)).1 j [] (by omega) .nil
  rw [List.append_nil] at hread
  rw [ofChars?, hread]
  rfl

/-- **the text of every value is read back as that value** -/
theorem ofText?_text (j : Json) : ofText? j.text = some j := by
  rw [ofText?, text, String.toList_ofList, ofChars?_chars]

end Json

end RouteHealth
