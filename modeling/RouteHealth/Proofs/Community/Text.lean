import Mathlib.Data.List.TakeWhile
import Mathlib.Tactic
import RouteHealth.Community.Text
import RouteHealth.Proofs.Digits

/-!
# The texts of a community

A community may be written in many ways: there may be blanks around either number, a plus sign before it
and zeros in front of it (`Community.IsHalf`), but only one colon.  Every text of this form is read, and
no other one (`Community.ofText_grammar`).  The text that is shown is the shortest of them, and the only
one of its length.
-/

namespace RouteHealth

/-! ## blanks -/

/-- the code points with the property `White_Space`, one by one -/
def whiteSpace : List Nat :=
  [0x9, 0xA, 0xB, 0xC, 0xD, 0x20, 0x85, 0xA0, 0x1680, 0x2000, 0x2001, 0x2002, 0x2003, 0x2004, 0x2005,
    0x2006, 0x2007, 0x2008, 0x2009, 0x200A, 0x2028, 0x2029, 0x202F, 0x205F, 0x3000]

theorem isBlank_iff {c : Char} : isBlank c = true ↔ c.toNat ∈ whiteSpace := by
  simp only [isBlank, blankRanges, whiteSpace, List.any_cons, List.any_nil, Bool.or_eq_true,
    Bool.and_eq_true, decide_eq_true_eq, List.mem_cons, List.not_mem_nil, Bool.false_eq_true, or_false]
  omega

theorem not_isBlank_of_isDigit {c : Char} (h : c.isDigit = true) : isBlank c = false := by
  obtain ⟨d, hd, rfl⟩ := Decimal.exists_digitChar h
  interval_cases d <;> rfl

section

variable {before core after : List Char}

theorem trimBlanks_append (hbefore : ∀ c ∈ before, isBlank c = true)
    (hcore : ∀ c ∈ core, isBlank c = false) (hne : core ≠ [])
    (hafter : ∀ c ∈ after, isBlank c = true) : trimBlanks (before ++ core ++ after) = core := by
  have hfirst : ∀ c ∈ (core ++ after).head?, isBlank c = false := by
    rw [List.head?_append_of_ne_nil _ hne]
    intro c hc
    exact hcore c (List.mem_of_mem_head? hc)
  have hlast : ∀ c ∈ core.reverse.head?, isBlank c = false := by
    intro c hc
    exact hcore c (List.mem_reverse.mp (List.mem_of_mem_head? hc))
  have hafter' : ∀ c ∈ after.reverse, isBlank c = true := by
    intro c hc
    exact hafter c (List.mem_reverse.mp hc)
  rw [trimBlanks, List.append_assoc, dropWhile_run hbefore hfirst, List.reverse_append,
    dropWhile_run hafter' hlast, List.reverse_reverse]

theorem exists_trimBlanks (cs : List Char) : ∃ before after, cs = before ++ trimBlanks cs ++ after
    ∧ (∀ c ∈ before, isBlank c = true) ∧ ∀ c ∈ after, isBlank c = true := by
  refine ⟨cs.takeWhile isBlank, ((cs.dropWhile isBlank).reverse.takeWhile isBlank).reverse, ?_, ?_, ?_⟩
  · rw [trimBlanks, List.append_assoc, ← List.reverse_append, List.takeWhile_append_dropWhile,
      List.reverse_reverse, List.takeWhile_append_dropWhile]
  · intro c hc
    exact List.mem_takeWhile_imp hc
  · intro c hc
    exact List.mem_takeWhile_imp (List.mem_reverse.mp hc)

end

namespace Community

/-! ## one side of the colon -/

/-- a number below 65536 in decimal after an optional plus sign, with any blanks around it -/
inductive IsHalf : List Char → Nat → Prop
  | mk {before sign digits after : List Char} {n : Nat} (hbefore : ∀ c ∈ before, c.toNat ∈ whiteSpace)
      (hsign : sign = [] ∨ sign = ['+']) (hdigits : Decimal.IsNumeral digits n) (hn : n ≤ 65535)
      (hafter : ∀ c ∈ after, c.toNat ∈ whiteSpace) : IsHalf (before ++ (sign ++ digits) ++ after) n

/-- a number below 65536 without a sign -/
def unsigned? (digits : List Char) : Option UInt16 :=
  (Decimal.ofDigits? digits).bind fun n => if n ≤ 65535 then some (UInt16.ofNat n) else none

theorem unsigned?_eq_some_iff {digits : List Char} {w : UInt16} :
    unsigned? digits = some w ↔ Decimal.IsNumeral digits w.toNat := by
  rw [unsigned?, ← Decimal.ofDigits?_eq_some_iff, Option.bind_eq_some_iff]
  constructor
  · rintro ⟨n, hdigits, hn⟩
    obtain ⟨hle, hw⟩ := Option.ite_none_right_eq_some.mp hn
    obtain rfl := Option.some.inj hw
    rw [hdigits, UInt16.toNat_ofNat', Nat.mod_eq_of_lt (by omega)]
  · intro hdigits
    have hle : w.toNat ≤ 65535 := Nat.le_of_lt_succ w.toNat_lt
    exact ⟨w.toNat, hdigits, by rw [if_pos hle, UInt16.ofNat_toNat]⟩

theorem half?_plus (digits : List Char) : half? ('+' :: digits) = unsigned? digits := rfl

theorem half?_of_no_plus {cs : List Char} (h : cs.head? ≠ some '+') : half? cs = unsigned? cs := by
  unfold half?
  split
  · exact absurd rfl h
  · rfl

theorem half?_eq_some_iff {cs : List Char} {w : UInt16} :
    half? cs = some w ↔ ∃ sign digits, cs = sign ++ digits ∧ (sign = [] ∨ sign = ['+'])
      ∧ Decimal.IsNumeral digits w.toNat := by
  by_cases hplus : cs.head? = some '+'
  · obtain ⟨rest, rfl⟩ := List.head?_eq_some_iff.mp hplus
    rw [half?_plus, unsigned?_eq_some_iff]
    constructor
    · intro h
      exact ⟨['+'], rest, rfl, .inr rfl, h⟩
    · rintro ⟨sign, digits, hcs, rfl | rfl, hdigits⟩
      · -- a plus sign is not a digit, so it is the sign
        obtain rfl : '+' :: rest = digits := hcs
        have hdigit : ('+').isDigit = true := hdigits.isDigit '+' (List.mem_cons_self ..)
        cases hdigit
      · rw [(List.cons.inj hcs).2]
        exact hdigits
  · rw [half?_of_no_plus hplus, unsigned?_eq_some_iff]
    constructor
    · intro h
      exact ⟨[], cs, rfl, .inl rfl, h⟩
    · rintro ⟨sign, digits, rfl, rfl | rfl, hdigits⟩
      · exact hdigits
      · exact absurd rfl hplus

theorem eq_plus_or_isDigit {sign digits : List Char} {n : Nat} (hsign : sign = [] ∨ sign = ['+'])
    (hdigits : Decimal.IsNumeral digits n) {c : Char} (hc : c ∈ sign ++ digits) :
    c = '+' ∨ c.isDigit = true := by
  rcases List.mem_append.mp hc with hc | hc
  · rcases hsign with rfl | rfl
    · cases hc
    · exact .inl (List.mem_singleton.mp hc)
  · exact .inr (hdigits.isDigit c hc)

theorem half?_trimBlanks_eq_some_iff {cs : List Char} {w : UInt16} :
    half? (trimBlanks cs) = some w ↔ IsHalf cs w.toNat := by
  rw [half?_eq_some_iff]
  constructor
  · rintro ⟨sign, digits, htrim, hsign, hdigits⟩
    obtain ⟨before, after, hcs, hbefore, hafter⟩ := exists_trimBlanks cs
    rw [hcs, htrim]
    exact .mk (fun c hc => isBlank_iff.mp (hbefore c hc)) hsign hdigits
      (Nat.le_of_lt_succ w.toNat_lt) fun c hc => isBlank_iff.mp (hafter c hc)
  · intro h
    generalize hw : w.toNat = n at h
    cases h with
    | @mk before sign digits after _ hbefore hsign hdigits hn hafter =>
      subst hw
      have hcore : ∀ c ∈ sign ++ digits, isBlank c = false := by
        intro c hc
        rcases eq_plus_or_isDigit hsign hdigits hc with rfl | hdigit
        · rfl
        · exact not_isBlank_of_isDigit hdigit
      have hne : sign ++ digits ≠ [] := List.append_ne_nil_of_right_ne_nil _ hdigits.ne_nil
      rw [trimBlanks_append (fun c hc => isBlank_iff.mpr (hbefore c hc)) hcore hne fun c hc =>
        isBlank_iff.mpr (hafter c hc)]
      exact ⟨sign, digits, rfl, hsign, hdigits⟩

/-! ## the two numbers of a community -/

section

variable (asn value : UInt16)

theorem toNat_raw_ofParts : (ofParts asn value).raw.toNat = 65536 * asn.toNat + value.toNat := by
  have hasn : asn.toNat < 65536 := asn.toNat_lt
  have hvalue : value.toNat < 65536 := value.toNat_lt
  rw [ofParts, UInt32.toNat_ofNat']
  exact Nat.mod_eq_of_lt (by omega)

theorem asn_ofParts : (ofParts asn value).asn = asn := by
  have hvalue : value.toNat < 65536 := value.toNat_lt
  have hhigh : (65536 * asn.toNat + value.toNat) / 65536 = asn.toNat := by omega
  rw [Community.asn, toNat_raw_ofParts, hhigh, UInt16.ofNat_toNat]

theorem value_ofParts : (ofParts asn value).value = value := by
  have hvalue : value.toNat < 65536 := value.toNat_lt
  have hlow : (65536 * asn.toNat + value.toNat) % 65536 = value.toNat := by omega
  rw [Community.value, toNat_raw_ofParts, hlow, UInt16.ofNat_toNat]

end

theorem ofParts_asn_value (c : Community) : ofParts c.asn c.value = c := by
  have hraw : c.raw.toNat < 4294967296 := c.raw.toNat_lt
  have hasn : c.asn.toNat = c.raw.toNat / 65536 := by
    rw [Community.asn, UInt16.toNat_ofNat']
    exact Nat.mod_eq_of_lt (by omega)
  have hvalue : c.value.toNat = c.raw.toNat % 65536 := by
    rw [Community.value, UInt16.toNat_ofNat']
    exact Nat.mod_eq_of_lt (by omega)
  have hsplit : (ofParts c.asn c.value).raw = c.raw := by
    apply UInt32.toNat_inj.mp
    rw [toNat_raw_ofParts, hasn, hvalue]
    exact Nat.div_add_mod ..
  exact congrArg Community.mk hsplit

theorem toNat_raw (c : Community) : c.raw.toNat = 65536 * c.asn.toNat + c.value.toNat := by
  rw [← toNat_raw_ofParts, ofParts_asn_value]

/-! ## the text as a whole -/

theorem ofChars?_of_no_colon {cs : List Char} (h : ':' ∉ cs) : ofChars? cs = none := by
  have hdrop : cs.dropWhile (· ≠ ':') = [] := by
    rw [List.dropWhile_eq_nil_iff]
    intro c hc
    simp only [decide_eq_true_eq]
    rintro rfl
    exact h hc
  rw [ofChars?, hdrop]

theorem ofChars?_append {left : List Char} (h : ':' ∉ left) (right : List Char) :
    ofChars? (left ++ ':' :: right) = (half? (trimBlanks left)).bind fun asn =>
      (half? (trimBlanks right)).map (ofParts asn) := by
  have hleft : ∀ c ∈ left, decide (c ≠ ':') = true := by
    intro c hc
    rw [decide_eq_true_eq]
    rintro rfl
    exact h hc
  have hright : ∀ c ∈ (':' :: right).head?, decide (c ≠ ':') = false := by
    rintro c ⟨⟩
    rfl
  rw [ofChars?, dropWhile_run hleft hright, takeWhile_run hleft hright]
  cases half? (trimBlanks left) with
  | none => rfl
  | some asn =>
    show (half? (trimBlanks right) >>= fun value => pure (ofParts asn value)) = _
    rw [Option.bind_some, bind_pure_comp]
    rfl

/-- the texts of a community: two numbers with a colon between them, and no colon before that one -/
theorem ofChars?_eq_some_iff {cs : List Char} {c : Community} :
    ofChars? cs = some c ↔ ∃ left right, cs = left ++ ':' :: right ∧ ':' ∉ left
      ∧ IsHalf left c.asn.toNat ∧ IsHalf right c.value.toNat := by
  constructor
  · intro h
    have hcolon : ':' ∈ cs := by
      by_contra hnone
      rw [ofChars?_of_no_colon hnone] at h
      cases h
    obtain ⟨left, right, rfl, hleft⟩ := List.eq_append_cons_of_mem hcolon
    rw [ofChars?_append hleft, Option.bind_eq_some_iff] at h
    obtain ⟨asn, hasn, hmap⟩ := h
    obtain ⟨value, hvalue, rfl⟩ := Option.map_eq_some_iff.mp hmap
    refine ⟨left, right, rfl, hleft, ?_, ?_⟩
    · rw [asn_ofParts]
      exact half?_trimBlanks_eq_some_iff.mp hasn
    · rw [value_ofParts]
      exact half?_trimBlanks_eq_some_iff.mp hvalue
  · rintro ⟨left, right, rfl, hleft, hasn, hvalue⟩
    rw [ofChars?_append hleft, half?_trimBlanks_eq_some_iff.mpr hasn,
      half?_trimBlanks_eq_some_iff.mpr hvalue, Option.bind_some, Option.map_some, ofParts_asn_value]

theorem ofText_eq_ok_iff {s : String} {c : Community} : ofText s = .ok c ↔ ofChars? s.toList = some c := by
  unfold ofText
  cases h : ofChars? s.toList with
  | none => simp
  | some c' => simp

theorem ofText_eq_error {s : String} (h : ¬∃ c, ofText s = .ok c) : ofText s = .error ⟨s⟩ := by
  have hnone : ofChars? s.toList = none := by
    by_contra hsome
    obtain ⟨c, hc⟩ := Option.ne_none_iff_exists'.mp hsome
    exact h ⟨c, ofText_eq_ok_iff.mpr hc⟩
  rw [ofText, hnone]

/-! ## the text that is shown -/

theorem IsHalf.length_le {cs : List Char} {n : Nat} (h : IsHalf cs n) :
    (Decimal.chars n).length ≤ cs.length := by
  cases h with
  | @mk before sign digits after _ _ _ hdigits _ _ =>
    have hlength := hdigits.length_le
    simp only [List.length_append]
    omega

theorem IsHalf.eq_chars {cs : List Char} {n : Nat} (h : IsHalf cs n)
    (hlength : cs.length ≤ (Decimal.chars n).length) : cs = Decimal.chars n := by
  cases h with
  | @mk before sign digits after _ _ _ hdigits _ _ =>
    have hle := hdigits.length_le
    simp only [List.length_append] at hlength
    obtain rfl : before = [] := List.length_eq_zero_iff.mp (by omega)
    obtain rfl : sign = [] := List.length_eq_zero_iff.mp (by omega)
    obtain rfl : after = [] := List.length_eq_zero_iff.mp (by omega)
    rw [List.append_nil]
    exact hdigits.eq_chars (by omega)

theorem isHalf_chars (w : UInt16) : IsHalf (Decimal.chars w.toNat) w.toNat := by
  have hnil : ∀ c ∈ ([] : List Char), c.toNat ∈ whiteSpace := fun c hc => by cases hc
  have h : IsHalf ([] ++ ([] ++ Decimal.chars w.toNat) ++ []) w.toNat :=
    .mk hnil (.inl rfl) (Decimal.isNumeral_chars _) (Nat.le_of_lt_succ w.toNat_lt) hnil
  rwa [List.append_nil] at h

theorem IsHalf.colon_notMem {cs : List Char} {n : Nat} (h : IsHalf cs n) : ':' ∉ cs := by
  have hblank : (':').toNat ∉ whiteSpace := by decide
  cases h with
  | @mk before sign digits after _ hbefore hsign hdigits _ hafter =>
    rw [List.mem_append, List.mem_append]
    rintro ((hmem | hmem) | hmem)
    · exact hblank (hbefore ':' hmem)
    · rcases eq_plus_or_isDigit hsign hdigits hmem with hplus | hdigit
      · cases hplus
      · cases hdigit
    · exact hblank (hafter ':' hmem)

theorem ofChars?_chars (c : Community) : ofChars? c.chars = some c := by
  have hasn := isHalf_chars c.asn
  exact ofChars?_eq_some_iff.mpr ⟨_, _, rfl, hasn.colon_notMem, hasn, isHalf_chars c.value⟩

theorem toList_text (c : Community) : c.text.toList = c.chars := String.toList_ofList

theorem length_chars_le {cs : List Char} {c : Community} (h : ofChars? cs = some c) :
    c.chars.length ≤ cs.length := by
  obtain ⟨left, right, rfl, -, hasn, hvalue⟩ := ofChars?_eq_some_iff.mp h
  have hleft := hasn.length_le
  have hright := hvalue.length_le
  simp only [chars, List.length_append, List.length_cons]
  omega

theorem eq_chars_of_length_le {cs : List Char} {c : Community} (h : ofChars? cs = some c)
    (hlength : cs.length ≤ c.chars.length) : cs = c.chars := by
  obtain ⟨left, right, rfl, -, hasn, hvalue⟩ := ofChars?_eq_some_iff.mp h
  have hleft := hasn.length_le
  have hright := hvalue.length_le
  simp only [chars, List.length_append, List.length_cons] at hlength
  rw [chars, hasn.eq_chars (by omega), hvalue.eq_chars (by omega)]

theorem count_colon_of_ofChars? {cs : List Char} {c : Community} (h : ofChars? cs = some c) :
    cs.count ':' = 1 := by
  obtain ⟨left, right, rfl, hleft, -, hvalue⟩ := ofChars?_eq_some_iff.mp h
  rw [List.count_append, List.count_cons_self, List.count_eq_zero_of_not_mem hleft,
    List.count_eq_zero_of_not_mem hvalue.colon_notMem]

/-- **The texts of a community.**  A text is read as a community exactly if it has a colon and on either
side of the first one, blanks apart, a number below 65536 in decimal after an optional plus sign; the
numbers are the two halves of the community.  Any other text is refused, and the error has it as it was
given; a text with a second colon is one of these.  The text that is shown for a community is read as that
community, and of all its texts it is the shortest and the only one of its length. -/
theorem ofText_grammar (s : String) (c : Community) :
    (ofText s = .ok c ↔ ∃ left right asn value, s.toList = left ++ ':' :: right ∧ ':' ∉ left
        ∧ IsHalf left asn ∧ IsHalf right value
        ∧ c.raw.toNat = 65536 * asn + value ∧ c.asn.toNat = asn ∧ c.value.toNat = value)
      ∧ ((∃ c', ofText s = .ok c') ∨ ofText s = .error ⟨s⟩)
      ∧ (s.toList.count ':' ≠ 1 → ofText s = .error ⟨s⟩)
      ∧ ofText c.text = .ok c
      ∧ (ofText s = .ok c →
        c.text.length ≤ s.length ∧ (s.length ≤ c.text.length → s = c.text)) := by
  refine ⟨?_, ?_, ?_, ?_, ?_⟩
  · rw [ofText_eq_ok_iff, ofChars?_eq_some_iff]
    constructor
    · rintro ⟨left, right, hs, hleft, hasn, hvalue⟩
      exact ⟨left, right, _, _, hs, hleft, hasn, hvalue, c.toNat_raw, rfl, rfl⟩
    · rintro ⟨left, right, _, _, hs, hleft, hasn, hvalue, -, rfl, rfl⟩
      exact ⟨left, right, hs, hleft, hasn, hvalue⟩
  · exact or_iff_not_imp_left.mpr ofText_eq_error
  · intro hcount
    apply ofText_eq_error
    rintro ⟨c', hc'⟩
    exact hcount (count_colon_of_ofChars? (ofText_eq_ok_iff.mp hc'))
  · rw [ofText_eq_ok_iff, toList_text, ofChars?_chars]
  · intro h
    rw [ofText_eq_ok_iff] at h
    have htext : c.text.length = c.chars.length := by rw [← toList_text, String.length_toList]
    rw [htext, ← String.length_toList]
    refine ⟨length_chars_le h, fun hlength => ?_⟩
    apply String.toList_injective
    rw [toList_text]
    exact eq_chars_of_length_le h hlength

/-- wide and narrow blanks, a plus sign and zeros, and two colons -/
theorem ofText_grammar_respelled :
    ofText "\u3000+007 :\u00858" = .ok (ofParts 7 8)
      ∧ (ofParts 7 8).text.length ≤ "\u3000+007 :\u00858".length
      ∧ "1:2:3".toList.count ':' ≠ 1 ∧ ofText "1:2:3" = .error ⟨"1:2:3"⟩ := by
  have hread : ofText "\u3000+007 :\u00858" = .ok (ofParts 7 8) := by decide
  have hcolons : "1:2:3".toList.count ':' ≠ 1 := by decide
  obtain ⟨-, -, -, -, hshort⟩ := ofText_grammar "\u3000+007 :\u00858" (ofParts 7 8)
  obtain ⟨-, -, hrefused, -, -⟩ := ofText_grammar "1:2:3" (ofParts 7 8)
  exact ⟨hread, (hshort hread).1, hcolons, hrefused hcolons⟩

end Community

end RouteHealth
