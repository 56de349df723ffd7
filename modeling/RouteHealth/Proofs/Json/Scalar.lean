import RouteHealth.Json.Read
import RouteHealth.Json.Write
import RouteHealth.Proofs.Digits

/-!
# Numbers and strings of JSON are read back

A number is the one value that does not say where it ends, so it is read back in front of a text that
does not go on with one (`EndsValue`, `Numeral.ofChars?_append`).  A string is read back character by
character, each from its escape (`Literal.points?_escape_append`), and the reader finds no surrogates to
join among the characters that were written (`Literal.pair?_map_toNat`).
-/

namespace RouteHealth

/-- the text goes on with what may follow a value that the writer puts into another one -/
def EndsValue (rest : List Char) : Prop := ∀ c ∈ rest.head?, c = ',' ∨ c = ']' ∨ c = '\x7d'

namespace EndsValue

theorem nil : EndsValue [] := nofun

theorem cons {c : Char} (h : c = ',' ∨ c = ']' ∨ c = '\x7d') (cs : List Char) :
    EndsValue (c :: cs) := by
  rintro c' ⟨⟩
  exact h

theorem notMem_head {rest : List Char} (h : EndsValue rest) {c : Char}
    (hc : c ≠ ',' ∧ c ≠ ']' ∧ c ≠ '\x7d') : c ∉ rest.head? := by
  intro hmem
  rcases h c hmem with rfl | rfl | rfl
  · exact hc.1 rfl
  · exact hc.2.1 rfl
  · exact hc.2.2 rfl

theorem noDigit {rest : List Char} (h : EndsValue rest) : NoDigit rest := by
  intro c hc
  rcases h c hc with rfl | rfl | rfl <;> rfl

end EndsValue

theorem skipBlanks_cons {c : Char} (h : isJsonBlank c = false) (cs : List Char) :
    skipBlanks (c :: cs) = c :: cs := List.dropWhile_cons_of_neg (by simp [h])

/-! ## numbers -/

namespace Numeral

def fractionChars (fraction : List (Fin 10)) : List Char :=
  if fraction = [] then [] else '.' :: fraction.map fun d => Nat.digitChar d.val

def exponentChars : Option Int → List Char
  | none => []
  | some e => 'e' :: (if e < 0 then ['-'] else []) ++ Decimal.chars e.natAbs

theorem digits?_append {ds rest : List Char} (hne : ds ≠ []) (hds : ∀ c ∈ ds, c.isDigit = true)
    (hrest : NoDigit rest) : digits? (ds ++ rest) = some (ds, rest) := by
  rw [digits?, takeWhile_digits hds hrest, dropWhile_digits hds hrest]
  split
  · contradiction
  · rfl

theorem digits?_chars_append (n : Nat) {rest : List Char} (hrest : NoDigit rest) :
    digits? (Decimal.chars n ++ rest) = some (Decimal.chars n, rest) :=
  digits?_append (Decimal.chars_ne_nil n) (fun _ => Decimal.isDigit_of_mem_chars) hrest

theorem whole?_append (n : Nat) {rest : List Char} (hrest : NoDigit rest) :
    whole? (Decimal.chars n ++ rest) = some (n, rest) := by
  by_cases hn : n = 0
  · subst hn
    rfl
  · obtain ⟨c, cs, h, -⟩ := Decimal.exists_digit_chars n
    have hc : c ≠ '0' := by
      rintro rfl
      exact Decimal.head_chars_ne_zero hn (by rw [h, List.head?_cons])
    have hread := digits?_chars_append n hrest
    rw [h] at hread ⊢
    unfold whole?
    split
    next heq => exact absurd (List.cons.inj heq).1 hc
    next =>
      rw [hread, Option.map_some, ← h]
      exact congrArg (fun m => some (m, rest)) (Decimal.ofDigitChars_chars n)

theorem isDigit_digitChar (d : Fin 10) : (Nat.digitChar d.val).isDigit = true := by
  revert d
  decide

theorem ofNat_digitChar (d : Fin 10) :
    Fin.ofNat 10 ((Nat.digitChar d.val).toNat - '0'.toNat) = d := by
  revert d
  decide

theorem fraction?_append (fraction : List (Fin 10)) {rest : List Char} (hrest : NoDigit rest)
    (hpoint : '.' ∉ rest.head?) :
    fraction? (fractionChars fraction ++ rest) = some (fraction, rest) := by
  unfold fractionChars
  split
  next hnil =>
    rw [hnil, List.nil_append]
    unfold fraction?
    split
    next => exact absurd rfl hpoint
    next => rfl
  next hne =>
    have hdigits : ∀ c ∈ fraction.map fun d => Nat.digitChar d.val, c.isDigit = true := by
      intro c hc
      obtain ⟨d, -, rfl⟩ := List.mem_map.mp hc
      exact isDigit_digitChar d
    have hread := digits?_append (mt List.map_eq_nil_iff.mp hne) hdigits hrest
    show (digits? ((fraction.map fun d => Nat.digitChar d.val) ++ rest)).map _ = _
    rw [hread, Option.map_some]
    apply congrArg fun ds => some (ds, rest)
    rw [List.map_map]
    conv_rhs => rw [← List.map_id fraction]
    exact List.map_congr_left fun d _ => ofNat_digitChar d

theorem magnitude?_append (n : Nat) {rest : List Char} (hrest : NoDigit rest) :
    magnitude? (Decimal.chars n ++ rest) = some (n, rest) := by
  rw [magnitude?, digits?_chars_append n hrest, Option.map_some]
  exact congrArg (fun m => some (m, rest)) (Decimal.ofDigitChars_chars n)

theorem signed?_append (e : Int) {rest : List Char} (hrest : NoDigit rest) :
    signed? ((if e < 0 then ['-'] else []) ++ Decimal.chars e.natAbs ++ rest) = some (e, rest) := by
  have hread := magnitude?_append e.natAbs hrest
  split
  next hneg =>
    show (magnitude? (Decimal.chars e.natAbs ++ rest)).map _ = _
    rw [hread, Option.map_some]
    apply congrArg fun m => some (m, rest)
    rw [Int.ofNat_natAbs_of_nonpos (Int.le_of_lt hneg), Int.neg_neg]
  next hpos =>
    rw [List.nil_append]
    unfold signed?
    split
    next heq => exact absurd heq (Decimal.chars_append_ne rfl _ _ _)
    next heq => exact absurd heq (Decimal.chars_append_ne rfl _ _ _)
    next =>
      rw [hread, Option.map_some]
      exact congrArg (fun m => some (m, rest)) (Int.natAbs_of_nonneg (Int.not_lt.mp hpos))

theorem exponent?_append (exponent : Option Int) {rest : List Char} (hrest : EndsValue rest) :
    exponent? (exponentChars exponent ++ rest) = some (exponent, rest) := by
  cases exponent with
  | none =>
    show exponent? rest = _
    unfold exponent?
    split
    next => exact absurd rfl (hrest.notMem_head (by decide))
    next => exact absurd rfl (hrest.notMem_head (by decide))
    next => rfl
  | some e =>
    show (signed? ((if e < 0 then ['-'] else []) ++ Decimal.chars e.natAbs ++ rest)).map _ = _
    rw [signed?_append e hrest.noDigit]
    rfl

/-- a numeral starts with a digit or a minus sign -/
theorem exists_chars_cons (n : Numeral) : ∃ c cs, n.chars = c :: cs ∧ (c.isDigit ∨ c = '-') := by
  obtain ⟨c, cs, h, hc⟩ := Decimal.exists_digit_chars n.whole
  unfold chars
  split
  next => exact ⟨'-', _, rfl, .inr rfl⟩
  next => exact ⟨c, _, by rw [h]; rfl, .inl hc⟩

theorem ne_of_starts {c d : Char} (hc : c.isDigit ∨ c = '-') (hd : d.isDigit = false ∧ d ≠ '-') :
    c ≠ d := by
  rintro rfl
  rcases hc with hc | rfl
  · rw [hc] at hd
    cases hd.1
  · exact hd.2 rfl

theorem notBlank_of_starts {c : Char} (hc : c.isDigit ∨ c = '-') : isJsonBlank c = false := by
  have hspace := ne_of_starts hc (show ' '.isDigit = false ∧ ' ' ≠ '-' by decide)
  have htab := ne_of_starts hc (show '\t'.isDigit = false ∧ '\t' ≠ '-' by decide)
  have hfeed := ne_of_starts hc (show '\n'.isDigit = false ∧ '\n' ≠ '-' by decide)
  have hreturn := ne_of_starts hc (show '\r'.isDigit = false ∧ '\r' ≠ '-' by decide)
  simp [isJsonBlank, hspace, htab, hfeed, hreturn]

theorem noDigit_fractionChars_append (fraction : List (Fin 10)) {rest : List Char}
    (hrest : NoDigit rest) : NoDigit (fractionChars fraction ++ rest) := by
  unfold fractionChars
  split
  · exact hrest
  · exact .cons rfl _

theorem noDigit_exponentChars_append (exponent : Option Int) {rest : List Char}
    (hrest : NoDigit rest) : NoDigit (exponentChars exponent ++ rest) := by
  cases exponent with
  | none => exact hrest
  | some e => exact .cons rfl _

theorem point_notMem_exponentChars_append (exponent : Option Int) {rest : List Char}
    (hrest : EndsValue rest) : '.' ∉ (exponentChars exponent ++ rest).head? := by
  cases exponent with
  | none => exact hrest.notMem_head (by decide)
  | some e => nofun

theorem unsigned?_append (n : Numeral) {rest : List Char} (hrest : EndsValue rest) :
    unsigned? n.negative (Decimal.chars n.whole ++ (fractionChars n.fraction ++
      (exponentChars n.exponent ++ rest))) = some (n, rest) := by
  have hdigit := noDigit_exponentChars_append n.exponent hrest.noDigit
  have hwhole := whole?_append n.whole (noDigit_fractionChars_append n.fraction hdigit)
  have hfraction := fraction?_append n.fraction hdigit
    (point_notMem_exponentChars_append n.exponent hrest)
  have hexponent := exponent?_append n.exponent hrest
  rw [unsigned?, hwhole]
  show (fraction? _).bind _ = _
  rw [hfraction]
  show (exponent? _).bind _ = _
  rw [hexponent]
  rfl

theorem ofChars?_append (n : Numeral) {rest : List Char} (hrest : EndsValue rest) :
    ofChars? (n.chars ++ rest) = some (n, rest) := by
  have hread := unsigned?_append n hrest
  have hchars : n.chars ++ rest = (if n.negative then ['-'] else []) ++ (Decimal.chars n.whole ++
      (fractionChars n.fraction ++ (exponentChars n.exponent ++ rest))) := by
    show _ ++ _ ++ fractionChars n.fraction ++ exponentChars n.exponent ++ rest = _
    simp only [List.append_assoc]
  rw [hchars]
  cases hsign : n.negative with
  | true =>
    rw [hsign] at hread
    exact hread
  | false =>
    rw [hsign] at hread
    rw [if_neg Bool.false_ne_true, List.nil_append]
    unfold ofChars?
    split
    next heq => exact absurd heq (Decimal.chars_append_ne rfl _ _ _)
    next => exact hread

end Numeral

/-! ## strings -/

namespace Literal

/-- the text of a string after its opening quote -/
def inner : Literal → List Char
  | text s => s.toList.flatMap escape ++ ['"']
  | unpaired => ['\\', 'u', 'd', '8', '0', '0', '"']

theorem chars_eq (l : Literal) : l.chars = '"' :: l.inner := by
  cases l with
  | text s => rfl
  | unpaired => rfl

theorem number?_control {n : Nat} (h : n < 32) :
    Hex.number? ['0', '0', Nat.digitChar (n / 16), Nat.digitChar (n % 16)] = some n := by
  have hhigh := Hex.value?_digitChar (show n / 16 < 16 by omega)
  have hlow := Hex.value?_digitChar (Nat.mod_lt n (show 0 < 16 by decide))
  have hzero : Hex.number? ['0', '0'] = some 0 := by decide
  have hpair := Hex.number?_append_singleton ['0', '0'] (Nat.digitChar (n / 16))
  rw [hzero, hhigh, Option.bind_some, Option.map_some] at hpair
  have hall := Hex.number?_append_singleton (['0', '0'] ++ [Nat.digitChar (n / 16)])
    (Nat.digitChar (n % 16))
  rw [hpair, hlow, Option.bind_some, Option.map_some, Nat.mul_zero, Nat.zero_add,
    Nat.div_add_mod] at hall
  exact hall

theorem points?_of_ne {c : Char} (hquote : c ≠ '"') (hbackslash : c ≠ '\\') (h : 32 ≤ c.toNat)
    (done : List Nat) (rest : List Char) :
    points? done (c :: rest) = points? (c.toNat :: done) rest := by
  rw [points?, if_neg (Nat.not_lt.mpr h)]
  · exact hquote
  · rintro a b d e cs rfl
    exact absurd rfl hbackslash
  · rintro a cs rfl
    exact absurd rfl hbackslash

theorem points?_escape_append (c : Char) (done : List Nat) (rest : List Char) :
    points? done (escape c ++ rest) = points? (c.toNat :: done) rest := by
  -- one case for each form of `escape`, in its order; only the last one is no escape
  unfold escape
  split
  next h => subst h; rfl
  split
  next h => subst h; rfl
  split
  next h => subst h; rfl
  split
  next h => subst h; rfl
  split
  next h => subst h; rfl
  split
  next h => rw [h]; rfl
  split
  next h => rw [h]; rfl
  split
  next h =>
    simp only [List.cons_append, List.nil_append, points?, number?_control h]
  next hquote hbackslash _ _ _ _ _ h =>
    exact points?_of_ne hquote hbackslash (Nat.not_lt.mp h) done rest

theorem points?_flatMap_escape (cs : List Char) (done : List Nat) (rest : List Char) :
    points? done (cs.flatMap escape ++ '"' :: rest)
      = some ((cs.map Char.toNat).reverse ++ done, rest) := by
  induction cs generalizing done with
  | nil => rfl
  | cons c cs ih =>
    rw [List.flatMap_cons, List.append_assoc, points?_escape_append, ih, List.map_cons,
      List.reverse_cons, List.append_assoc]
    rfl

/-- a character is no half of a surrogate pair -/
theorem toNat_notSurrogate (c : Char) : c.toNat < 0xD800 ∨ 0xDFFF < c.toNat := by
  rcases c.valid with h | ⟨h, -⟩
  · exact .inl h
  · exact .inr h

theorem pair?_map_toNat (cs : List Char) : pair? (cs.map Char.toNat) = some cs := by
  induction cs with
  | nil => rfl
  | cons c cs ih =>
    have hc := toNat_notSurrogate c
    cases cs with
    | nil =>
      show (if 0xD800 ≤ c.toNat ∧ c.toNat ≤ 0xDFFF then none else some [Char.ofNat c.toNat]) = _
      rw [if_neg (by omega), Char.ofNat_toNat]
    | cons c' cs =>
      rw [List.map_cons, List.map_cons, pair?, if_neg (by omega), if_neg (by omega),
        ← List.map_cons, ih, Char.ofNat_toNat]
      rfl

theorem ofChars?_append (l : Literal) (rest : List Char) :
    ofChars? (l.inner ++ rest) = some (l, rest) := by
  cases l with
  | text s =>
    rw [inner, List.append_assoc, List.singleton_append, ofChars?, points?_flatMap_escape,
      Option.map_some, List.append_nil]
    simp only [List.reverse_reverse, pair?_map_toNat, String.ofList_toList]
  | unpaired => rfl

end Literal

end RouteHealth
