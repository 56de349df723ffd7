import RouteHealth.Proofs.Reading
import RouteHealth.Proofs.Registry
import RouteHealth.Reading.Sequence

/-!
# What a sequence of reads takes

A read takes either nothing or all the octets of its field (`Request.exists_accounts`): nothing where too
few are left, and the whole field otherwise, whether or not what stands in it has a meaning.  So the fields
that a sequence of reads takes stand one after the other at the front of the octets, whatever becomes of
each read (`Request.answers_account`).
-/

namespace RouteHealth

theorem recognize_of_notMem {α : Type} [ClosedRegistry α] {n : Nat} (h : n ∉ Registry.assigned α) :
    (recognize n : Except ReadError α) = .error (.unrecognized (ClosedRegistry.space α) n) := by
  rw [recognize, Registry.ofCode?_eq_none_iff.mpr h]

namespace Request

/-- the number of octets that a request takes where they are there: none if it only asks whether they
are -/
def taken : Request → Nat
  | require _ => 0
  | q => q.width

/-- what a request gives for the octets that it takes; a number has its most significant octet first -/
inductive Gives : Request → Bytes → Except ReadError Reply → Prop
  | require (n : Nat) : Gives (.require n) [] (.ok .available)
  | octet (a : UInt8) : Gives .octet [a] (.ok (.number a.toNat))
  | word16 (a b : UInt8) : Gives .word16 [a, b] (.ok (.number (256 * a.toNat + b.toNat)))
  | word32 (a b c d : UInt8) : Gives .word32 [a, b, c, d]
      (.ok (.number (256 * (256 * (256 * a.toNat + b.toNat) + c.toNat) + d.toNat)))
  | ipv4 (a b c d : UInt8) : Gives .ipv4 [a, b, c, d] (.ok (.ipv4 ⟨[a, b, c, d], rfl⟩))
  | afiIPv4 : Gives .afi [0, 1] (.ok (.afi .ipv4))
  | afiIPv6 : Gives .afi [0, 2] (.ok (.afi .ipv6))
  | afiUnrecognized {a b : UInt8} (h : 256 * a.toNat + b.toNat ∉ [1, 2]) :
      Gives .afi [a, b] (.error (.unrecognized .afi (256 * a.toNat + b.toNat)))
  | safiUnicast : Gives .safi [1] (.ok (.safi .unicast))
  | safiMulticast : Gives .safi [2] (.ok (.safi .multicast))
  | safiUnrecognized {a : UInt8} (h : a.toNat ∉ [1, 2]) :
      Gives .safi [a] (.error (.unrecognized .safi a.toNat))
  | octets (bs : Bytes) : Gives (.octets bs.length) bs (.ok (.octets bs))

variable {q : Request} {slice rest bs : Bytes} {outcome : Except ReadError Reply}

theorem Gives.length (h : Gives q slice outcome) : slice.length = q.taken := by
  cases h <;> rfl

theorem Gives.ne_notEnough (h : Gives q slice outcome) (needed remaining : Nat) :
    outcome ≠ .error (.notEnough needed remaining) := by
  cases h <;> intro heq <;> cases heq

/-! ## one request -/

theorem runOn_reader_of_lt (h : bs.length < q.width) :
    q.reader.runOn bs = (.error (.notEnough q.width bs.length), bs) := by
  cases q with
  | require n => exact Reader.runOn_bind_of_error (Reader.runOn_require_of_lt h) _
  | octet | word16 | word32 | ipv4 | afi | safi =>
    exact Reader.runOn_bind_of_error (Reader.runOn_bind_of_error (Reader.runOn_number_of_lt h) _) _
  | octets n => exact Reader.runOn_bind_of_error (Reader.runOn_octets_of_lt h) _

theorem runOn_reader_octet (a : UInt8) (rest : Bytes) :
    Request.octet.reader.runOn (a :: rest) = (.ok (.number a.toNat), rest) :=
  Reader.runOn_bind_of_ok (Reader.runOn_octet_cons a rest) _

theorem runOn_reader_word16 (a b : UInt8) (rest : Bytes) : Request.word16.reader.runOn (a :: b :: rest)
    = (.ok (.number (256 * a.toNat + b.toNat)), rest) := by
  have hread := Reader.runOn_word16_append (UInt16.ofNat (Bytes.toNat [a, b])) rest
  have hnumber := Bytes.toNat_ofWord16 (UInt16.ofNat (Bytes.toNat [a, b]))
  rw [Bytes.ofWord16_ofNat_toNat] at hread hnumber
  rw [← Bytes.toNat_pair, hnumber]
  exact Reader.runOn_bind_of_ok hread _

theorem runOn_reader_word32 (a b c d : UInt8) (rest : Bytes) :
    Request.word32.reader.runOn (a :: b :: c :: d :: rest)
      = (.ok (.number (256 * (256 * (256 * a.toNat + b.toNat) + c.toNat) + d.toNat)), rest) := by
  have hread := Reader.runOn_word32_append (UInt32.ofNat (Bytes.toNat [a, b, c, d])) rest
  have hnumber := Bytes.toNat_ofWord32 (UInt32.ofNat (Bytes.toNat [a, b, c, d]))
  rw [Bytes.ofWord32_ofNat_toNat] at hread hnumber
  rw [← Bytes.toNat_quad, hnumber]
  exact Reader.runOn_bind_of_ok hread _

theorem runOn_reader_ipv4 (a b c d : UInt8) (rest : Bytes) :
    Request.ipv4.reader.runOn (a :: b :: c :: d :: rest)
      = (.ok (.ipv4 ⟨[a, b, c, d], rfl⟩), rest) :=
  Reader.runOn_bind_of_ok (Reader.runOn_ipv4_append ⟨[a, b, c, d], rfl⟩ rest) _

theorem exists_runOn_reader_afi (a b : UInt8) (rest : Bytes) :
    ∃ outcome, Gives .afi [a, b] outcome ∧ Request.afi.reader.runOn (a :: b :: rest) = (outcome, rest) := by
  have hread : Reader.afi.runOn (a :: b :: rest) = (recognize (Bytes.toNat [a, b]), rest) :=
    Reader.runOn_member_append [a, b] rest
  by_cases h : 256 * a.toNat + b.toNat ∈ [1, 2]
  · have hassigned : a = 0 ∧ (b = 1 ∨ b = 2) := by
      simp only [List.mem_cons, List.not_mem_nil, or_false] at h
      simp only [← UInt8.toNat_inj, UInt8.reduceToNat]
      omega
    obtain ⟨rfl, rfl | rfl⟩ := hassigned
    · exact ⟨_, .afiIPv4, Reader.runOn_bind_of_ok hread _⟩
    · exact ⟨_, .afiIPv6, Reader.runOn_bind_of_ok hread _⟩
  · rw [Bytes.toNat_pair, recognize_of_notMem h] at hread
    exact ⟨_, .afiUnrecognized h, Reader.runOn_bind_of_error hread _⟩

theorem exists_runOn_reader_safi (a : UInt8) (rest : Bytes) :
    ∃ outcome, Gives .safi [a] outcome ∧ Request.safi.reader.runOn (a :: rest) = (outcome, rest) := by
  have hread : Reader.safi.runOn (a :: rest) = (recognize (Bytes.toNat [a]), rest) :=
    Reader.runOn_member_append [a] rest
  by_cases h : a.toNat ∈ [1, 2]
  · have hassigned : a = 1 ∨ a = 2 := by
      simpa only [List.mem_cons, List.not_mem_nil, or_false, ← UInt8.toNat_inj, UInt8.reduceToNat] using h
    obtain rfl | rfl := hassigned
    · exact ⟨_, .safiUnicast, Reader.runOn_bind_of_ok hread _⟩
    · exact ⟨_, .safiMulticast, Reader.runOn_bind_of_ok hread _⟩
  · rw [Bytes.toNat_singleton, recognize_of_notMem h] at hread
    exact ⟨_, .safiUnrecognized h, Reader.runOn_bind_of_error hread _⟩

/-- a field that is there is taken, and what it gives stands in it -/
theorem exists_runOn_reader (h : q.width ≤ bs.length) : ∃ slice rest outcome,
    bs = slice ++ rest ∧ Gives q slice outcome ∧ q.reader.runOn bs = (outcome, rest) := by
  cases q with
  | require n =>
    exact ⟨[], bs, _, rfl, .require n, Reader.runOn_bind_of_ok (Reader.runOn_require_of_le h) _⟩
  | octet =>
    match bs, h with
    | a :: rest, _ => exact ⟨[a], rest, _, rfl, .octet a, runOn_reader_octet a rest⟩
  | word16 =>
    match bs, h with
    | a :: b :: rest, _ => exact ⟨[a, b], rest, _, rfl, .word16 a b, runOn_reader_word16 a b rest⟩
  | word32 =>
    match bs, h with
    | a :: b :: c :: d :: rest, _ =>
      exact ⟨[a, b, c, d], rest, _, rfl, .word32 a b c d, runOn_reader_word32 a b c d rest⟩
  | ipv4 =>
    match bs, h with
    | a :: b :: c :: d :: rest, _ =>
      exact ⟨[a, b, c, d], rest, _, rfl, .ipv4 a b c d, runOn_reader_ipv4 a b c d rest⟩
  | afi =>
    match bs, h with
    | a :: b :: rest, _ =>
      obtain ⟨outcome, hgives, hrun⟩ := exists_runOn_reader_afi a b rest
      exact ⟨[a, b], rest, outcome, rfl, hgives, hrun⟩
  | safi =>
    match bs, h with
    | a :: rest, _ =>
      obtain ⟨outcome, hgives, hrun⟩ := exists_runOn_reader_safi a rest
      exact ⟨[a], rest, outcome, rfl, hgives, hrun⟩
  | octets n =>
    have hlength : (bs.take n).length = n := List.length_take_of_le h
    have hread := Reader.runOn_octets_append (bs.take n) (bs.drop n)
    have hgives := Gives.octets (bs.take n)
    rw [hlength] at hgives
    rw [hlength, List.take_append_drop] at hread
    exact ⟨bs.take n, bs.drop n, _, (List.take_append_drop n bs).symm, hgives,
      Reader.runOn_bind_of_ok hread _⟩

/-! ## a sequence of requests -/

/-- what a request makes of the octets unread before it: what it takes of them, what it leaves, and what
becomes of it -/
structure Accounts (q : Request) (unread slice rest : Bytes) (outcome : Except ReadError Reply) : Prop where
  splits : unread = slice ++ rest
  refused_iff : outcome = .error (.notEnough q.width unread.length) ↔ unread.length < q.width
  kept : unread.length < q.width → slice = []
  taken : q.width ≤ unread.length → slice.length = q.taken
  gives : q.width ≤ unread.length → Gives q slice outcome

theorem exists_accounts (q : Request) (bs : Bytes) :
    ∃ slice, Accounts q bs slice (q.reader.runOn bs).2 (q.reader.runOn bs).1 := by
  by_cases hlt : bs.length < q.width
  · rw [runOn_reader_of_lt hlt]
    exact ⟨[], {
      splits := rfl
      refused_iff := iff_of_true rfl hlt
      kept := fun _ => rfl
      taken := fun hle => absurd hlt (Nat.not_lt.mpr hle)
      gives := fun hle => absurd hlt (Nat.not_lt.mpr hle) }⟩
  · obtain ⟨slice, rest, outcome, hsplits, hgives, hrun⟩ := exists_runOn_reader (Nat.le_of_not_lt hlt)
    rw [hrun]
    exact ⟨slice, {
      splits := hsplits
      refused_iff := iff_of_false (hgives.ne_notEnough _ _) hlt
      kept := fun h => absurd h hlt
      taken := fun _ => hgives.length
      gives := fun _ => hgives }⟩

/-- Each request of a sequence takes a slice of the octets, and the slices stand one after the other: what
is unread before a request is what follows all slices before it.  A request that asks for more octets than
are unread is refused and takes none.  Any other one takes as many as its field has, and gives what these
octets say as a number with the most significant octet first, or what this number is assigned to.  Where
it is not assigned the request fails with the number, and the octets are taken all the same. -/
theorem answers_account (qs : List Request) (bs : Bytes) : ∃ slices : List Bytes,
    slices.length = qs.length ∧ (answers qs bs).length = qs.length
      ∧ ∀ i q, qs[i]? = some q → ∃ unread slice rest outcome,
          slices[i]? = some slice ∧ (answers qs bs)[i]? = some (outcome, rest)
            ∧ bs = (slices.take i).flatten ++ unread ∧ Accounts q unread slice rest outcome := by
  induction qs generalizing bs with
  | nil => exact ⟨[], rfl, rfl, fun i q hq => by cases hq⟩
  | cons p ps ih =>
    obtain ⟨first, hfirst⟩ := exists_accounts p bs
    obtain ⟨slices, hslices, hanswers, hlater⟩ := ih (p.reader.runOn bs).2
    refine ⟨first :: slices, congrArg (· + 1) hslices, congrArg (· + 1) hanswers, fun i q hq => ?_⟩
    cases i with
    | zero =>
      obtain rfl := Option.some.inj hq
      exact ⟨bs, first, _, _, rfl, rfl, rfl, hfirst⟩
    | succ i =>
      obtain ⟨unread, slice, rest, outcome, hslice, hanswer, hunread, haccounts⟩ := hlater i q hq
      refine ⟨unread, slice, rest, outcome, hslice, hanswer, ?_, haccounts⟩
      rw [List.take_succ_cons, List.flatten_cons, List.append_assoc, ← hunread]
      exact hfirst.splits

/-- in the octets `[0, 9, 1, 2]`: nine octets are asked for in vain, the family 9 that stands in front is
not assigned, and it is taken -/
theorem answers_account_mixed : ∃ unread slice,
    (answers [.require 9, .afi, .word32] [0, 9, 1, 2])[1]? = some (.error (.unrecognized .afi 9), [1, 2])
      ∧ Accounts .afi unread slice [1, 2] (.error (.unrecognized .afi 9)) := by
  obtain ⟨_, -, -, h⟩ := answers_account [.require 9, .afi, .word32] [0, 9, 1, 2]
  obtain ⟨unread, slice, rest, outcome, -, hanswer, -, haccounts⟩ := h 1 .afi rfl
  have hrun : (answers [.require 9, .afi, .word32] [0, 9, 1, 2])[1]?
      = some (.error (.unrecognized .afi 9), [1, 2]) := rfl
  obtain ⟨rfl, rfl⟩ := Prod.mk.inj (Option.some.inj (hanswer.symm.trans hrun))
  exact ⟨unread, slice, hrun, haccounts⟩

end Request

end RouteHealth
