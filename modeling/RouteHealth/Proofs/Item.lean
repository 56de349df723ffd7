import RouteHealth.Proofs.Capability

/-!
# What an octet string is made of

`Item.Run` says without a reader which items stand one after the other in an octet string, and
`Item.CutShort` which octets start an item and are not all of it.  Every octet string is a run of items
and then nothing or an item that is cut short (`Item.exists_run_append`); the reader finds the items of
the run and what is missing of the last one (`Item.readAll_run_append`, `Item.readAll_cutShort`).  So it
reads exactly the runs (`Item.readAll_eq_none_iff`), a string is a run of one list of items at most
(`Item.Run.unique`), and of none if its last item is cut short (`Item.Run.not_run_append`).
-/

namespace RouteHealth.Item

/-- the items that stand one after the other in an octet string: for each a code, the number of octets
of its value, and as many octets -/
inductive Run : Bytes → List Item → Prop
  | nil : Run [] []
  | cons {code length : UInt8} {value rest : Bytes} {items : List Item}
      (hlength : value.length = length.toNat) (hrest : Run rest items) :
      Run (code :: length :: (value ++ rest)) (⟨code, value⟩ :: items)

/-- octets that start an item and end before it does, with the number of octets that its next part needs
and the number of those that are there -/
inductive CutShort : Bytes → (needed remaining : Nat) → Prop
  | length (code : UInt8) : CutShort [code] 1 0
  | value (code : UInt8) {length : UInt8} {rest : Bytes} (h : rest.length < length.toNat) :
      CutShort (code :: length :: rest) length.toNat rest.length

variable {bs front rest : Bytes} {items : List Item} {needed remaining : Nat}

theorem CutShort.lt (h : CutShort bs needed remaining) : remaining < needed := by
  cases h with
  | length code => exact Nat.one_pos
  | value code h => exact h

/-! ## reading -/

theorem readAll_run_append (h : Run front items) (rest : Bytes) :
    readAll (front ++ rest) = (items ++ (readAll rest).1, (readAll rest).2) := by
  induction h with
  | nil => rfl
  | @cons code length value middle items hlength _ ih =>
    have hle : value.length ≤ 255 := by
      have hlt : length.toNat < 256 := length.toNat_lt
      omega
    have hoctets : code :: length :: (value ++ middle) ++ rest
        = octets ⟨code, value⟩ ++ (middle ++ rest) := by
      simp [octets, hlength]
    rw [hoctets, readAll_octets_append hle, ih]
    rfl

theorem readAll_cutShort (h : CutShort rest needed remaining) :
    readAll rest = ([], some (.notEnough needed remaining)) := by
  cases h with
  | length code => rw [readAll]
  | @value code length rest h =>
    have htake : rest.take length.toNat = rest := List.take_of_length_le (Nat.le_of_lt h)
    rw [readAll, htake]
    exact if_pos h

/-- every octet string is a run of items, and then nothing or an item that is cut short -/
theorem exists_run_append (bs : Bytes) : ∃ front items rest, bs = front ++ rest ∧ Run front items
    ∧ (rest = [] ∨ ∃ needed remaining, CutShort rest needed remaining) := by
  induction bs using readAll.induct with
  | case1 => exact ⟨[], [], [], rfl, .nil, .inl rfl⟩
  | case2 code => exact ⟨[], [], [code], rfl, .nil, .inr ⟨1, 0, .length code⟩⟩
  | case3 code length tail value hshort =>
    have hvalue : tail.length < length.toNat := by
      rw [List.length_take] at hshort
      omega
    exact ⟨[], [], _, rfl, .nil, .inr ⟨_, _, .value code hvalue⟩⟩
  | case4 code length tail value hwhole _ _ _ ih =>
    have hvalue : value.length = length.toNat := by
      have hle : value.length ≤ length.toNat := List.length_take_le _ _
      omega
    obtain ⟨front, items, rest, hdrop, hrun, hrest⟩ := ih
    refine ⟨code :: length :: (value ++ front), ⟨code, value⟩ :: items, rest, ?_,
      .cons hvalue hrun, hrest⟩
    rw [List.cons_append, List.cons_append, List.append_assoc, ← hdrop, List.take_append_drop]

theorem readAll_run (h : Run bs items) : readAll bs = (items, none) := by
  have hread := readAll_run_append h []
  rw [List.append_nil] at hread
  rw [hread, readAll, List.append_nil]

/-- what is wrong with an octet string is that its last item is cut short -/
theorem readAll_cases (bs : Bytes) : (∃ items, Run bs items ∧ readAll bs = (items, none))
    ∨ ∃ items needed remaining, remaining < needed
      ∧ readAll bs = (items, some (.notEnough needed remaining)) := by
  obtain ⟨front, items, rest, rfl, hrun, rfl | ⟨needed, remaining, hcut⟩⟩ := exists_run_append bs
  · rw [List.append_nil]
    exact .inl ⟨items, hrun, readAll_run hrun⟩
  · refine .inr ⟨items, needed, remaining, hcut.lt, ?_⟩
    rw [readAll_run_append hrun, readAll_cutShort hcut, List.append_nil]

theorem readAll_eq_none_iff : readAll bs = (items, none) ↔ Run bs items := by
  refine ⟨fun h => ?_, readAll_run⟩
  rcases readAll_cases bs with ⟨items', hrun, hread⟩ | ⟨_, _, _, -, hread⟩
  · rw [h] at hread
    rw [(Prod.mk.inj hread).1]
    exact hrun
  · rw [h] at hread
    cases (Prod.mk.inj hread).2

theorem Run.unique {items' : List Item} (h : Run bs items) (h' : Run bs items') : items = items' := by
  have hread := readAll_run h
  rw [readAll_run h'] at hread
  exact (Prod.mk.inj hread).1.symm

/-- what goes on with an item that is cut short is not a run -/
theorem Run.not_run_append {items' : List Item} (h : Run front items)
    (hcut : CutShort rest needed remaining) : ¬Run (front ++ rest) items' := by
  rw [← readAll_eq_none_iff, readAll_run_append h, readAll_cutShort hcut]
  intro hread
  cases (Prod.mk.inj hread).2

/-- an item of a run stands after a run of the items before it -/
theorem Run.exists_append_of_mem (h : Run bs items) {item : Item} (hmem : item ∈ items) :
    ∃ before earlier length after, bs = before ++ item.code :: length :: (item.value ++ after)
      ∧ Run before earlier ∧ item.value.length = length.toNat := by
  induction h with
  | nil => cases hmem
  | @cons code length value rest items hlength _ ih =>
    rcases List.mem_cons.mp hmem with rfl | hmem
    · exact ⟨[], [], length, rest, rfl, .nil, hlength⟩
    · obtain ⟨before, earlier, length', after, rfl, hbefore, hlength'⟩ := ih hmem
      refine ⟨code :: length :: (value ++ before), ⟨code, value⟩ :: earlier, length', after, ?_,
        .cons hlength hbefore, hlength'⟩
      simp only [List.cons_append, List.append_assoc]

end RouteHealth.Item
