import Mathlib.Tactic
import RouteHealth.Decimal
import RouteHealth.Hex

/-!
# Digits are read back

The digits of a number read as that number, in decimal (`Decimal.ofDigits?_chars`) and in hexadecimal
(`Hex.number?_toDigits`), and those of octets as the octets (`Hex.ofText?_text`).  A run of digits ends
where something else follows (`takeWhile_digits`, `dropWhile_digits`), and the digits of a number that
is not zero do not start with a zero (`Decimal.head_chars_ne_zero`).  What else is read as a number are
the same digits with zeros in front of them (`Decimal.ofDigits?_eq_some_iff`,
`Decimal.IsNumeral.exists_zeros`).
-/

namespace RouteHealth

/-! ## runs of characters -/

section

variable {α : Type} {p : α → Bool} {front rest : List α}

theorem takeWhile_run (hfront : ∀ a ∈ front, p a = true) (hrest : ∀ a ∈ rest.head?, p a = false) :
    (front ++ rest).takeWhile p = front := by
  rw [List.takeWhile_append_of_pos hfront]
  cases rest with
  | nil => rw [List.takeWhile_nil, List.append_nil]
  | cons a rest =>
    have ha : p a = false := hrest a rfl
    rw [List.takeWhile_cons_of_neg (by simp [ha]), List.append_nil]

theorem dropWhile_run (hfront : ∀ a ∈ front, p a = true) (hrest : ∀ a ∈ rest.head?, p a = false) :
    (front ++ rest).dropWhile p = rest := by
  rw [List.dropWhile_append_of_pos hfront]
  cases rest with
  | nil => rfl
  | cons a rest =>
    have ha : p a = false := hrest a rfl
    rw [List.dropWhile_cons_of_neg (by simp [ha])]

end

/-- the text does not go on with a decimal digit -/
def NoDigit (rest : List Char) : Prop := ∀ c ∈ rest.head?, c.isDigit = false

theorem NoDigit.cons {c : Char} (h : c.isDigit = false) (cs : List Char) : NoDigit (c :: cs) := by
  rintro c' ⟨⟩
  exact h

theorem takeWhile_digits {ds rest : List Char} (hds : ∀ c ∈ ds, c.isDigit = true)
    (hrest : NoDigit rest) : (ds ++ rest).takeWhile Char.isDigit = ds :=
  takeWhile_run hds hrest

theorem dropWhile_digits {ds rest : List Char} (hds : ∀ c ∈ ds, c.isDigit = true)
    (hrest : NoDigit rest) : (ds ++ rest).dropWhile Char.isDigit = rest :=
  dropWhile_run hds hrest

/-! ## decimal digits -/

namespace Decimal

theorem isDigit_of_mem_chars {n : Nat} {c : Char} (h : c ∈ chars n) : c.isDigit = true :=
  Nat.isDigit_of_mem_toDigits (by decide) (by decide) h

theorem chars_ne_nil (n : Nat) : chars n ≠ [] := Nat.toDigits_ne_nil

theorem ofDigitChars_chars (n : Nat) : Nat.ofDigitChars 10 (chars n) 0 = n :=
  Nat.ofDigitChars_ten_toDigits

theorem ofDigits?_chars (n : Nat) : ofDigits? (chars n) = some n := by
  have hall : (chars n).all Char.isDigit = true := List.all_eq_true.mpr fun c => isDigit_of_mem_chars
  rw [ofDigits?, if_pos ⟨chars_ne_nil n, hall⟩, ofDigitChars_chars]

theorem exists_digit_chars (n : Nat) : ∃ c cs, chars n = c :: cs ∧ c.isDigit = true := by
  cases h : chars n with
  | nil => exact absurd h (chars_ne_nil n)
  | cons c cs => exact ⟨c, cs, rfl, isDigit_of_mem_chars (h ▸ List.mem_cons_self ..)⟩

/-- a number does not start with anything but a digit -/
theorem chars_append_ne {c : Char} (hc : c.isDigit = false) (n : Nat) (rest cs : List Char) :
    chars n ++ rest ≠ c :: cs := by
  obtain ⟨d, ds, h, hd⟩ := exists_digit_chars n
  rw [h]
  intro heq
  rw [(List.cons.inj heq).1, hc] at hd
  cases hd

/-- only zero is written with a leading zero -/
theorem head_chars_ne_zero {n : Nat} (h : n ≠ 0) : (chars n).head? ≠ some '0' := by
  induction n using Nat.strongRecOn with
  | ind n ih =>
    by_cases hn : n < 10
    · rw [chars, Nat.toDigits_of_lt_base hn]
      revert h
      interval_cases n <;> decide
    · have hsplit : chars n = chars (n / 10) ++ [(n % 10).digitChar] :=
        Nat.toDigits_of_base_le (by decide) (Nat.not_lt.mp hn)
      rw [hsplit, List.head?_append_of_ne_nil _ (chars_ne_nil _)]
      exact ih (n / 10) (by omega) (by omega)

/-! ## numbers with zeros in front of them -/

/-- a number in decimal: one digit, or a number in decimal and one digit more -/
inductive IsNumeral : List Char → Nat → Prop
  | digit {d : Nat} (hd : d < 10) : IsNumeral [d.digitChar] d
  | snoc {cs : List Char} {n d : Nat} (hcs : IsNumeral cs n) (hd : d < 10) :
      IsNumeral (cs ++ [d.digitChar]) (10 * n + d)

section

variable {cs : List Char} {n : Nat}

theorem exists_digitChar {c : Char} (h : c.isDigit = true) :
    ∃ d, d < 10 ∧ c = d.digitChar := by
  have hrange : 48 ≤ c.toNat ∧ c.toNat ≤ 57 := by
    simpa [Char.isDigit, Char.le_def, UInt32.le_iff_toNat_le] using h
  have hlt : c.toNat - 48 < 10 := by omega
  refine ⟨c.toNat - 48, hlt, ?_⟩
  apply Char.toNat_inj.mp
  rw [Nat.toNat_digitChar_of_lt_ten hlt]
  omega

theorem IsNumeral.isDigit (h : IsNumeral cs n) : ∀ c ∈ cs, c.isDigit = true := by
  induction h with
  | digit hd =>
    intro c hc
    rw [List.mem_singleton.mp hc, Nat.isDigit_digitChar, decide_eq_true hd]
  | snoc _ hd ih =>
    intro c hc
    rcases List.mem_append.mp hc with hc | hc
    · exact ih c hc
    · rw [List.mem_singleton.mp hc, Nat.isDigit_digitChar, decide_eq_true hd]

theorem IsNumeral.ne_nil (h : IsNumeral cs n) : cs ≠ [] := by
  cases h with
  | digit _ => exact List.cons_ne_nil _ _
  | snoc _ _ => exact List.append_ne_nil_of_right_ne_nil _ (List.cons_ne_nil _ _)

theorem ofDigitChars_snoc {d : Nat} (hd : d < 10) :
    Nat.ofDigitChars 10 (cs ++ [d.digitChar]) 0 = 10 * Nat.ofDigitChars 10 cs 0 + d := by
  have hdigit : d.digitChar.toNat - '0'.toNat = d := by
    rw [Nat.toNat_digitChar_of_lt_ten hd]
    exact Nat.add_sub_cancel_left 48 d
  rw [Nat.ofDigitChars_append, Nat.ofDigitChars_cons, Nat.ofDigitChars_nil, hdigit]

theorem IsNumeral.ofDigitChars_eq (h : IsNumeral cs n) : Nat.ofDigitChars 10 cs 0 = n := by
  induction h with
  | @digit d hd =>
    have hlast : Nat.ofDigitChars 10 ([] ++ [d.digitChar]) 0 = 10 * Nat.ofDigitChars 10 [] 0 + d :=
      ofDigitChars_snoc hd
    exact hlast.trans (Nat.zero_add d)
  | snoc _ hd ih => rw [ofDigitChars_snoc hd, ih]

theorem isNumeral_ofDigitChars (hne : cs ≠ []) (h : ∀ c ∈ cs, c.isDigit = true) :
    IsNumeral cs (Nat.ofDigitChars 10 cs 0) := by
  induction cs using List.reverseRecOn with
  | nil => exact absurd rfl hne
  | append_singleton cs c ih =>
    obtain ⟨d, hd, rfl⟩ := exists_digitChar (h c (List.mem_append_right cs (List.mem_singleton_self c)))
    rw [ofDigitChars_snoc hd]
    by_cases hcs : cs = []
    · subst hcs
      have hone : IsNumeral [d.digitChar] d := .digit hd
      rwa [Nat.ofDigitChars_nil, Nat.mul_zero, Nat.zero_add]
    · exact .snoc (ih hcs fun c hc => h c (List.mem_append_left _ hc)) hd

theorem ofDigits?_eq_some_iff : ofDigits? cs = some n ↔ IsNumeral cs n := by
  constructor
  · intro h
    obtain ⟨⟨hne, hdigits⟩, hn⟩ := Option.ite_none_right_eq_some.mp h
    rw [← Option.some.inj hn]
    exact isNumeral_ofDigitChars hne (List.all_eq_true.mp hdigits)
  · intro h
    rw [ofDigits?, if_pos ⟨h.ne_nil, List.all_eq_true.mpr h.isDigit⟩, h.ofDigitChars_eq]

theorem isNumeral_chars (n : Nat) : IsNumeral (chars n) n :=
  ofDigits?_eq_some_iff.mp (ofDigits?_chars n)

/-- a number is written with its digits and zeros in front of them -/
theorem IsNumeral.exists_zeros (h : IsNumeral cs n) :
    ∃ zeros, cs = List.replicate zeros '0' ++ chars n := by
  induction h with
  | @digit d hd => exact ⟨0, (Nat.toDigits_of_lt_base hd).symm⟩
  | @snoc cs n d _ hd ih =>
    obtain ⟨zeros, rfl⟩ := ih
    by_cases hn : n = 0
    · subst hn
      refine ⟨zeros + 1, ?_⟩
      have hd' : chars (10 * 0 + d) = [d.digitChar] := by
        rw [Nat.mul_zero, Nat.zero_add, chars, Nat.toDigits_of_lt_base hd]
      rw [hd', List.replicate_succ']
      rfl
    · refine ⟨zeros, ?_⟩
      have hsplit : chars n ++ [d.digitChar] = chars (10 * n + d) := by
        rw [chars, chars, ← Nat.toDigits_append_toDigits (by decide) (Nat.pos_of_ne_zero hn) hd,
          Nat.toDigits_of_lt_base hd]
      rw [List.append_assoc, hsplit]

theorem IsNumeral.length_le (h : IsNumeral cs n) : (chars n).length ≤ cs.length := by
  obtain ⟨zeros, rfl⟩ := h.exists_zeros
  rw [List.length_append]
  exact Nat.le_add_left ..

theorem IsNumeral.eq_chars (h : IsNumeral cs n) (hlength : cs.length ≤ (chars n).length) :
    cs = chars n := by
  obtain ⟨zeros, rfl⟩ := h.exists_zeros
  rw [List.length_append, List.length_replicate] at hlength
  obtain rfl : zeros = 0 := by omega
  rfl

end

end Decimal

/-! ## hexadecimal digits -/

namespace Hex

theorem value?_digitChar {d : Nat} (h : d < 16) : value? (Nat.digitChar d) = some d := by
  interval_cases d <;> decide

theorem number?_append_singleton (cs : List Char) (c : Char) :
    number? (cs ++ [c]) = (number? cs).bind fun n => (value? c).map (16 * n + ·) := by
  rw [number?, List.foldlM_append]
  simp only [List.foldlM_cons, List.foldlM_nil, bind_pure]
  rfl

theorem number?_toDigits (n : Nat) : number? (Nat.toDigits 16 n) = some n := by
  induction n using Nat.strongRecOn with
  | ind n ih =>
    by_cases hn : n < 16
    · have hone := number?_append_singleton [] (Nat.digitChar n)
      rw [value?_digitChar hn] at hone
      rw [Nat.toDigits_of_lt_base hn]
      exact hone.trans (congrArg some (Nat.zero_add n))
    · rw [Nat.toDigits_of_base_le (by decide) (Nat.not_lt.mp hn), number?_append_singleton,
        ih (n / 16) (by omega), value?_digitChar (Nat.mod_lt n (by decide))]
      exact congrArg some (Nat.div_add_mod n 16)

/-- the characters of a hexadecimal number are digits -/
theorem isSome_value?_of_mem_toDigits {n : Nat} {c : Char} (h : c ∈ Nat.toDigits 16 n) :
    (value? c).isSome := by
  induction n using Nat.strongRecOn with
  | ind n ih =>
    by_cases hn : n < 16
    · rw [Nat.toDigits_of_lt_base hn] at h
      rw [List.mem_singleton.mp h, value?_digitChar hn]
      rfl
    · rw [Nat.toDigits_of_base_le (by decide) (Nat.not_lt.mp hn)] at h
      rcases List.mem_append.mp h with h | h
      · exact ih (n / 16) (by omega) h
      · rw [List.mem_singleton.mp h, value?_digitChar (Nat.mod_lt n (by decide))]
        rfl

theorem ofChars?_chars (bs : Bytes) : ofChars? (chars bs) = some bs := by
  induction bs with
  | nil => rfl
  | cons b bs ih =>
    have hb : b.toNat < 256 := b.toNat_lt
    have hvalue : UInt8.ofNat (16 * (b.toNat / 16) + b.toNat % 16) = b := by
      rw [Nat.div_add_mod, UInt8.ofNat_toNat]
    show ofChars? ((b.toNat / 16).digitChar :: (b.toNat % 16).digitChar :: chars bs) = _
    rw [ofChars?, value?_digitChar (by omega), value?_digitChar (by omega), ih]
    exact congrArg (fun o => some (o :: bs)) hvalue

theorem ofText?_text (bs : Bytes) : ofText? (text bs) = some bs := by
  rw [ofText?, text, String.toList_ofList, ofChars?_chars]

end Hex

end RouteHealth
