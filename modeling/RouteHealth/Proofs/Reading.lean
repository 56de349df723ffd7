import RouteHealth.Proofs.Address
import RouteHealth.Proofs.Bytes
import RouteHealth.Reading

/-!
# Reading a field that is there

A read of a field that stands in front takes exactly the octets of that field and leaves the rest
(`Reader.runOn_octets_append`, and one lemma for each kind of field).  Where too few octets are left
nothing is taken (`Reader.runOn_require_of_lt`).  A sequence of reads is opened one read at a time by
`Reader.runOn_bind_of_ok` and `Reader.runOn_bind_of_error`.  What a read that succeeded was given is
found in the same way (`Reader.runOn_bind_eq_ok_iff`, `Reader.runOn_octets_eq_ok_iff`).
-/

namespace RouteHealth

namespace Reader

variable {α β : Type} {r : Reader α} {bs rest : Bytes}

/-! ## sequences -/

theorem runOn_pure (a : α) (bs : Bytes) : (pure a : Reader α).runOn bs = (.ok a, bs) := rfl

theorem runOn_bind_of_ok {a : α} (h : r.runOn bs = (.ok a, rest)) (f : α → Reader β) :
    (r >>= f).runOn bs = (f a).runOn rest := by
  unfold runOn at h ⊢
  rw [ExceptT.run_bind, StateT.run_bind, h]
  rfl

theorem runOn_bind_of_error {e : ReadError} (h : r.runOn bs = (.error e, rest)) (f : α → Reader β) :
    (r >>= f).runOn bs = (.error e, rest) := by
  unfold runOn at h ⊢
  rw [ExceptT.run_bind, StateT.run_bind, h]
  rfl

/-! ## fields -/

theorem runOn_require_of_le {n : Nat} (h : n ≤ bs.length) :
    (require n).runOn bs = (.ok (), bs) := by
  show runOn (if bs.length < n then _ else _) bs = _
  rw [if_neg (Nat.not_lt.mpr h)]
  rfl

theorem runOn_require_of_lt {n : Nat} (h : bs.length < n) :
    (require n).runOn bs = (.error (.notEnough n bs.length), bs) := by
  show runOn (if bs.length < n then _ else _) bs = _
  rw [if_pos h]
  rfl

theorem runOn_octets_of_lt {n : Nat} (h : bs.length < n) :
    (octets n).runOn bs = (.error (.notEnough n bs.length), bs) := by
  unfold octets
  rw [runOn_bind_of_error (runOn_require_of_lt h)]

theorem runOn_octets_append (front rest : Bytes) :
    (octets front.length).runOn (front ++ rest) = (.ok front, rest) := by
  have hlen : front.length ≤ (front ++ rest).length := by rw [List.length_append]; omega
  unfold octets
  rw [runOn_bind_of_ok (runOn_require_of_le hlen)]
  show (Except.ok ((front ++ rest).take front.length), (front ++ rest).drop front.length) = _
  rw [List.take_left, List.drop_left]

theorem runOn_number_append (front rest : Bytes) :
    (number front.length).runOn (front ++ rest) = (.ok (Bytes.toNat front), rest) := by
  unfold number
  rw [runOn_bind_of_ok (runOn_octets_append front rest)]
  rfl

theorem runOn_number_of_lt {n : Nat} (h : bs.length < n) :
    (number n).runOn bs = (.error (.notEnough n bs.length), bs) := by
  unfold number
  rw [runOn_bind_of_error (runOn_octets_of_lt h)]

theorem runOn_ofExcept (outcome : Except ReadError α) (bs : Bytes) :
    (ofExcept outcome : Reader α).runOn bs = (outcome, bs) := by
  cases outcome <;> rfl

theorem runOn_member_append [ClosedRegistry α] (front rest : Bytes) :
    (member front.length : Reader α).runOn (front ++ rest)
      = (recognize (Bytes.toNat front), rest) := by
  unfold member
  rw [runOn_bind_of_ok (runOn_number_append front rest), runOn_ofExcept]

theorem runOn_octet_cons (b : UInt8) (rest : Bytes) : octet.runOn (b :: rest) = (.ok b, rest) := by
  have hnumber : (number 1).runOn (b :: rest) = (.ok (Bytes.toNat [b]), rest) :=
    runOn_number_append [b] rest
  unfold octet
  rw [runOn_bind_of_ok hnumber, runOn_pure, Bytes.toNat_singleton, UInt8.ofNat_toNat]

theorem runOn_word16_append (w : UInt16) (rest : Bytes) :
    word16.runOn (Bytes.ofWord16 w ++ rest) = (.ok w, rest) := by
  have hnumber := runOn_number_append (Bytes.ofWord16 w) rest
  rw [Bytes.length_ofWord16] at hnumber
  unfold word16
  rw [runOn_bind_of_ok hnumber, runOn_pure, Bytes.ofNat_toNat_ofWord16]

theorem runOn_word32_append (w : UInt32) (rest : Bytes) :
    word32.runOn (Bytes.ofWord32 w ++ rest) = (.ok w, rest) := by
  have hnumber := runOn_number_append (Bytes.ofWord32 w) rest
  rw [Bytes.length_ofWord32] at hnumber
  unfold word32
  rw [runOn_bind_of_ok hnumber, runOn_pure, Bytes.ofNat_toNat_ofWord32]

theorem runOn_ipv4_append (a : IPv4) (rest : Bytes) :
    ipv4.runOn (a.octets ++ rest) = (.ok a, rest) := by
  have hnumber := runOn_number_append a.octets rest
  rw [a.length_octets] at hnumber
  unfold ipv4
  rw [runOn_bind_of_ok hnumber, runOn_pure, a.ofNat_toNat_octets]

theorem runOn_rest (bs : Bytes) : Reader.rest.runOn bs = (.ok bs, []) := rfl

/-! ## reads that succeeded -/

theorem runOn_bind_eq_ok_iff {f : α → Reader β} {b : β} :
    (r >>= f).runOn bs = (.ok b, rest)
      ↔ ∃ a middle, r.runOn bs = (.ok a, middle) ∧ (f a).runOn middle = (.ok b, rest) := by
  constructor
  · intro h
    cases hr : r.runOn bs with
    | mk outcome middle =>
      cases outcome with
      | error e =>
        rw [runOn_bind_of_error hr] at h
        cases (Prod.mk.inj h).1
      | ok a =>
        rw [runOn_bind_of_ok hr] at h
        exact ⟨a, middle, rfl, h⟩
  · rintro ⟨a, middle, hr, hf⟩
    rw [runOn_bind_of_ok hr, hf]

theorem runOn_pure_eq_ok_iff {a b : α} :
    (pure a : Reader α).runOn bs = (.ok b, rest) ↔ a = b ∧ bs = rest := by
  rw [runOn_pure, Prod.mk.injEq, Except.ok.injEq]

theorem runOn_octets_eq_ok_iff {n : Nat} {front : Bytes} :
    (octets n).runOn bs = (.ok front, rest) ↔ bs = front ++ rest ∧ front.length = n := by
  constructor
  · intro h
    by_cases hn : n ≤ bs.length
    · have hread := runOn_octets_append (bs.take n) (bs.drop n)
      rw [List.length_take_of_le hn, List.take_append_drop, h] at hread
      obtain ⟨hfront, rfl⟩ := Prod.mk.inj hread
      obtain rfl := Except.ok.inj hfront
      exact ⟨(List.take_append_drop n bs).symm, List.length_take_of_le hn⟩
    · rw [runOn_octets_of_lt (Nat.lt_of_not_le hn)] at h
      cases (Prod.mk.inj h).1
  · rintro ⟨rfl, rfl⟩
    exact runOn_octets_append front rest

theorem runOn_number_eq_ok_iff {n k : Nat} :
    (number n).runOn bs = (.ok k, rest)
      ↔ ∃ front, bs = front ++ rest ∧ front.length = n ∧ Bytes.toNat front = k := by
  unfold number
  simp only [runOn_bind_eq_ok_iff, runOn_pure_eq_ok_iff, runOn_octets_eq_ok_iff]
  constructor
  · rintro ⟨front, _, ⟨hbs, hlength⟩, hk, rfl⟩
    exact ⟨front, hbs, hlength, hk⟩
  · rintro ⟨front, hbs, hlength, hk⟩
    exact ⟨front, rest, ⟨hbs, hlength⟩, hk, rfl⟩

theorem runOn_octet_eq_ok_iff {b : UInt8} :
    octet.runOn bs = (.ok b, rest) ↔ bs = b :: rest := by
  constructor
  · intro h
    unfold octet at h
    simp only [runOn_bind_eq_ok_iff, runOn_pure_eq_ok_iff, runOn_number_eq_ok_iff] at h
    obtain ⟨_, _, ⟨front, hbs, hlength, rfl⟩, rfl, rfl⟩ := h
    obtain ⟨c, rfl⟩ := List.length_eq_one_iff.mp hlength
    rw [hbs, Bytes.toNat_singleton, UInt8.ofNat_toNat]
    rfl
  · rintro rfl
    exact runOn_octet_cons b rest

section

variable [ClosedRegistry α] (hcode : ∀ a : α, Registry.ofCode? (Registry.code a) = some a)
include hcode

/-- a number is recognized as the member that has it as its code -/
theorem recognize_eq_ok_iff {n : Nat} {a : α} : recognize n = .ok a ↔ Registry.code a = n := by
  unfold recognize
  constructor
  · intro h
    cases hn : (Registry.ofCode? n : Option α) with
    | none =>
      rw [hn] at h
      cases h
    | some b =>
      rw [hn] at h
      obtain rfl := Except.ok.inj h
      exact Registry.code_of_ofCode? hn
  · rintro rfl
    rw [hcode]

theorem runOn_member_eq_ok_iff {n : Nat} {a : α} :
    (member n).runOn bs = (.ok a, rest)
      ↔ ∃ front, bs = front ++ rest ∧ front.length = n ∧ Bytes.toNat front = Registry.code a := by
  unfold member
  simp only [runOn_bind_eq_ok_iff, runOn_number_eq_ok_iff, runOn_ofExcept, Prod.mk.injEq,
    recognize_eq_ok_iff hcode]
  constructor
  · rintro ⟨_, _, ⟨front, hbs, hlength, rfl⟩, hk, rfl⟩
    exact ⟨front, hbs, hlength, hk.symm⟩
  · rintro ⟨front, hbs, hlength, hk⟩
    exact ⟨_, rest, ⟨front, hbs, hlength, rfl⟩, hk.symm, rfl⟩

end

end Reader

end RouteHealth
