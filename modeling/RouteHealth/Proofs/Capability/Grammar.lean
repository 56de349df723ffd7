import RouteHealth.Open
import RouteHealth.Proofs.Item
import RouteHealth.Proofs.Registry

/-!
# The blocks that can be read

A block of optional parameters is a run of parameters, and the value of each parameter of the type for
capabilities is in turn a run of capabilities (`Capability.IsBlock`).  The capabilities of an OPEN are
there exactly if its block is of this form, and are then those of the parameters one after the other;
any other block is cut short somewhere (`Capability.capabilities_grammar`).
-/

namespace RouteHealth

instance : LawfulOpenRegistry CapabilityKind where

theorem CapabilityKind.octet_ofCode (code : UInt8) :
    OpenRegistry.octet (OpenRegistry.ofCode code : CapabilityKind) = code :=
  OpenRegistry.octet_ofCode code

namespace Capability

/-- the capabilities in a parameter: those that its value is a run of if it is of type 2, and none if it
is of another type, whatever its value is -/
inductive Carries : Item → List Item → Prop
  | capabilities {value : Bytes} {items : List Item} (h : Item.Run value items) :
      Carries ⟨2, value⟩ items
  | other {parameter : Item} (h : parameter.code ≠ 2) : Carries parameter []

/-- a block is a run of some parameters, which have some capabilities each -/
structure IsBlock (block : Bytes) (parameters : List Item) (contents : List (List Item)) : Prop where
  run : Item.Run block parameters
  carries : List.Forall₂ Carries parameters contents

/-! ## one parameter -/

theorem Carries.unique {parameter : Item} {items items' : List Item} (h : Carries parameter items)
    (h' : Carries parameter items') : items = items' := by
  cases h with
  | capabilities h =>
    cases h' with
    | capabilities h' => exact h.unique h'
    | other h' => exact absurd rfl h'
  | other h =>
    cases h' with
    | capabilities h' => exact absurd rfl h
    | other h' => rfl

/-- a parameter is read as the capabilities in it, or it is for capabilities and its value is cut
short -/
theorem ofParameter_cases (parameter : Item) :
    (∃ items, Carries parameter items ∧ ofParameter parameter = .ok (items.map ofItem))
      ∨ (¬∃ items, Carries parameter items) ∧ ∃ needed remaining, remaining < needed
        ∧ ofParameter parameter = .error (.notEnough needed remaining) := by
  obtain ⟨code, value⟩ := parameter
  by_cases hcode : code = 2
  · subst hcode
    rcases Item.readAll_cases value with ⟨items, hrun, hread⟩ | ⟨items, needed, remaining, hlt, hread⟩
    · exact .inl ⟨items, .capabilities hrun, ofParameter_of_readAll _ rfl hread⟩
    · refine .inr ⟨?_, needed, remaining, hlt, ?_⟩
      · rintro ⟨items', hcarries⟩
        cases hcarries with
        | capabilities hrun =>
          rw [Item.readAll_run hrun] at hread
          cases (Prod.mk.inj hread).2
        | other h => exact h rfl
      · have hcode : (⟨2, value⟩ : Item).code = capabilitiesParameter := rfl
        rw [ofParameter, if_pos hcode, hread]
  · exact .inl ⟨[], .other hcode, if_neg hcode⟩

theorem ofParameter_eq_ok_iff {parameter : Item} {capabilities : List Capability} :
    ofParameter parameter = .ok capabilities
      ↔ ∃ items, Carries parameter items ∧ capabilities = items.map ofItem := by
  rcases ofParameter_cases parameter with ⟨items, hcarries, hread⟩ | ⟨hnone, _, _, -, hread⟩
  · rw [hread]
    constructor
    · intro h
      exact ⟨items, hcarries, (Except.ok.inj h).symm⟩
    · rintro ⟨items', hcarries', rfl⟩
      rw [hcarries.unique hcarries']
  · rw [hread]
    constructor
    · intro h
      cases h
    · rintro ⟨items, hcarries, -⟩
      exact absurd ⟨items, hcarries⟩ hnone

/-! ## blocks -/

namespace IsBlock

variable {block : Bytes} {parameters : List Item} {contents : List (List Item)}

theorem unique {parameters' : List Item} {contents' : List (List Item)}
    (h : IsBlock block parameters contents) (h' : IsBlock block parameters' contents') :
    parameters = parameters' ∧ contents = contents' := by
  obtain rfl := h.run.unique h'.run
  exact ⟨rfl, List.right_unique_forall₂' (fun _ _ _ h h' => h.unique h') h.carries h'.carries⟩

theorem exists_carries (h : IsBlock block parameters contents) {parameter : Item}
    (hmem : parameter ∈ (Item.readAll block).1) : ∃ items, Carries parameter items := by
  rw [Item.readAll_run h.run] at hmem
  exact exists_of_forall₂_of_mem h.carries hmem

end IsBlock

theorem mapM_ofParameter_eq_ok_iff {parameters : List Item} {lists : List (List Capability)} :
    parameters.mapM ofParameter = .ok lists ↔ ∃ contents, List.Forall₂ Carries parameters contents
      ∧ lists = contents.map (List.map ofItem) := by
  rw [mapM_eq_ok_iff]
  constructor
  · intro h
    induction h with
    | nil => exact ⟨[], .nil, rfl⟩
    | cons hread _ ih =>
      obtain ⟨items, hcarries, rfl⟩ := ofParameter_eq_ok_iff.mp hread
      obtain ⟨contents, hcontents, rfl⟩ := ih
      exact ⟨items :: contents, .cons hcarries hcontents, rfl⟩
  · rintro ⟨contents, hcontents, rfl⟩
    rw [List.forall₂_map_right_iff]
    exact hcontents.imp fun parameter items h => ofParameter_eq_ok_iff.mpr ⟨items, h, rfl⟩

theorem ofParameters_of_lists {block : Bytes} {parameters : List Item}
    {lists : List (List Capability)} (hread : Item.readAll block = (parameters, none))
    (hlists : parameters.mapM ofParameter = .ok lists) : ofParameters block = .ok lists.flatten := by
  unfold ofParameters
  rw [hread]
  show parameters.mapM ofParameter >>= _ = _
  rw [hlists]
  rfl

theorem ofParameters_of_parameter_error {block : Bytes} {e : ReadError}
    (h : (Item.readAll block).1.mapM ofParameter = .error e) : ofParameters block = .error e := by
  unfold ofParameters
  show (Item.readAll block).1.mapM ofParameter >>= _ = _
  rw [h]
  rfl

theorem ofParameters_of_failure {block : Bytes} {parameters : List Item}
    {lists : List (List Capability)} {e : ReadError}
    (hread : Item.readAll block = (parameters, some e))
    (hlists : parameters.mapM ofParameter = .ok lists) : ofParameters block = .error e := by
  unfold ofParameters
  rw [hread]
  show parameters.mapM ofParameter >>= _ = _
  rw [hlists]
  rfl

/-- a block is read as the capabilities in its parameters, and anything else is cut short somewhere -/
theorem ofParameters_cases (block : Bytes) :
    (∃ parameters contents, IsBlock block parameters contents
        ∧ ofParameters block = .ok (contents.flatten.map ofItem))
      ∨ (¬∃ parameters contents, IsBlock block parameters contents)
        ∧ ∃ needed remaining, remaining < needed
          ∧ ofParameters block = .error (.notEnough needed remaining) := by
  cases hlists : (Item.readAll block).1.mapM ofParameter with
  | error e =>
    -- a parameter of a block has capabilities, so the one that failed is in no block
    obtain ⟨parameter, hmem, hparameter⟩ := exists_of_mapM_eq_error hlists
    rcases ofParameter_cases parameter with ⟨items, -, hread⟩ | ⟨hnone, needed, remaining, hlt, hread⟩
    · rw [hparameter] at hread
      cases hread
    · rw [hparameter] at hread
      obtain rfl := Except.error.inj hread
      refine .inr ⟨?_, needed, remaining, hlt, ofParameters_of_parameter_error hlists⟩
      rintro ⟨parameters, contents, hblock⟩
      exact hnone (hblock.exists_carries hmem)
  | ok lists =>
    rcases Item.readAll_cases block with ⟨parameters, hrun, hread⟩ | ⟨parameters, needed, remaining,
      hlt, hread⟩
    · rw [hread] at hlists
      obtain ⟨contents, hcontents, rfl⟩ := mapM_ofParameter_eq_ok_iff.mp hlists
      refine .inl ⟨parameters, contents, ⟨hrun, hcontents⟩, ?_⟩
      rw [ofParameters_of_lists hread hlists, List.map_flatten]
    · rw [hread] at hlists
      refine .inr ⟨?_, needed, remaining, hlt, ofParameters_of_failure hread hlists⟩
      rintro ⟨parameters', contents, hblock⟩
      rw [Item.readAll_run hblock.run] at hread
      cases (Prod.mk.inj hread).2

theorem ofParameters_eq_ok_iff {block : Bytes} {capabilities : List Capability} :
    ofParameters block = .ok capabilities ↔ ∃ parameters contents, IsBlock block parameters contents
      ∧ capabilities = contents.flatten.map ofItem := by
  rcases ofParameters_cases block with ⟨parameters, contents, hblock, hread⟩ | ⟨hnone, _, _, -, hread⟩
  · rw [hread]
    constructor
    · intro h
      exact ⟨parameters, contents, hblock, (Except.ok.inj h).symm⟩
    · rintro ⟨parameters', contents', hblock', rfl⟩
      rw [(hblock.unique hblock').2]
  · rw [hread]
    constructor
    · intro h
      cases h
    · rintro ⟨parameters, contents, hblock, -⟩
      exact absurd ⟨parameters, contents, hblock⟩ hnone

/-- a parameter after some others is found, whatever follows it -/
theorem mem_readAll_parameter {before value : Bytes} {parameters : List Item} {length : UInt8}
    (hbefore : Item.Run before parameters) (hlength : value.length = length.toNat) (code : UInt8)
    (after : Bytes) :
    ⟨code, value⟩ ∈ (Item.readAll (before ++ code :: length :: (value ++ after))).1 := by
  have hone : Item.Run (code :: length :: (value ++ [])) [⟨code, value⟩] := .cons hlength .nil
  have hread := Item.readAll_run_append hone after
  rw [List.append_nil, List.cons_append, List.cons_append] at hread
  rw [Item.readAll_run_append hbefore, hread]
  simp

/-- **The capabilities of an OPEN.**  They can be read exactly if the parameters are a block, and are
then the capabilities in the parameters, one parameter after the other, with their codes and values.
A string is a block in one way at most.  Where it is none, some part of it needs more octets than are
there; so it is with a capability that ends after its parameter does, whatever follows the parameter. -/
theorem capabilities_grammar (m : Open) :
    (∀ capabilities, m.capabilities = .ok capabilities ↔
        ∃ parameters contents, IsBlock m.parameters parameters contents
          ∧ capabilities = contents.flatten.map ofItem)
      ∧ (∀ item, OpenRegistry.octet (ofItem item).kind = item.code ∧ (ofItem item).value = item.value)
      ∧ (∀ parameters parameters' contents contents', IsBlock m.parameters parameters contents →
        IsBlock m.parameters parameters' contents' → parameters = parameters' ∧ contents = contents')
      ∧ ((¬∃ parameters contents, IsBlock m.parameters parameters contents) →
        ∃ needed remaining, m.capabilities = .error (.notEnough needed remaining)
          ∧ remaining < needed)
      ∧ ∀ before parameters length whole items part needed remaining after,
        m.parameters = before ++ 2 :: length :: (whole ++ part ++ after) →
        (whole ++ part).length = length.toNat →
        Item.Run before parameters → Item.Run whole items → Item.CutShort part needed remaining →
        ∃ needed remaining, m.capabilities = .error (.notEnough needed remaining)
          ∧ remaining < needed := by
  have hotherwise (h : ¬∃ parameters contents, IsBlock m.parameters parameters contents) :
      ∃ needed remaining, m.capabilities = .error (.notEnough needed remaining)
        ∧ remaining < needed := by
    rcases ofParameters_cases m.parameters with ⟨parameters, contents, hblock, -⟩ | ⟨-, needed,
      remaining, hlt, hread⟩
    · exact absurd ⟨parameters, contents, hblock⟩ h
    · exact ⟨needed, remaining, hread, hlt⟩
  refine ⟨?_, ?_, ?_, hotherwise, ?_⟩
  · intro capabilities
    exact ofParameters_eq_ok_iff
  · intro item
    exact ⟨CapabilityKind.octet_ofCode item.code, rfl⟩
  · intro parameters parameters' contents contents' h h'
    exact h.unique h'
  · intro before parameters length whole items part needed remaining after hparameters hlength
      hbefore hwhole hpart
    apply hotherwise
    rintro ⟨parameters', contents, hblock⟩
    have hmem := mem_readAll_parameter hbefore hlength 2 after
    rw [← hparameters] at hmem
    obtain ⟨items', hcarries⟩ := hblock.exists_carries hmem
    cases hcarries with
    | capabilities hrun =>
      have hread := Item.readAll_run hrun
      rw [Item.readAll_run_append hwhole, Item.readAll_cutShort hpart] at hread
      cases (Prod.mk.inj hread).2
    | other h => exact h rfl

/-- an OPEN with a parameter of another type before one that carries capabilities -/
def overrunOpen (value after : Bytes) : Open where
  version := 4
  asn := 65000
  holdTime := 90
  routerId := .ofNat 0x0A000001
  multiprotocol := false
  parameters := [1, 1, 0] ++ 2 :: 3 :: (value ++ after)

/-- with one octet in its parameter a capability of one octet is read and one of two octets is not,
though two octets follow the parameter -/
theorem capabilities_grammar_overrun :
    (overrunOpen [65, 1, 0] []).capabilities = .ok [⟨.fourOctetAsNumber, [0]⟩]
      ∧ ∃ needed remaining, (overrunOpen [65, 2, 0] [9, 9]).capabilities
        = .error (.notEnough needed remaining) ∧ remaining < needed := by
  have hother : Item.Run [1, 1, 0] [⟨1, [0]⟩] := @Item.Run.cons 1 1 [0] [] [] rfl .nil
  constructor
  · obtain ⟨hread, -⟩ := capabilities_grammar (overrunOpen [65, 1, 0] [])
    have hvalue : Item.Run [65, 1, 0] [⟨65, [0]⟩] := @Item.Run.cons 65 1 [0] [] [] rfl .nil
    have hlast : Item.Run [2, 3, 65, 1, 0] [⟨2, [65, 1, 0]⟩] :=
      @Item.Run.cons 2 3 [65, 1, 0] [] [] rfl .nil
    refine (hread _).mpr ⟨_, [[], [⟨65, [0]⟩]], ⟨@Item.Run.cons 1 1 [0] _ _ rfl hlast, ?_⟩, rfl⟩
    exact .cons (.other (by decide)) (.cons (.capabilities hvalue) .nil)
  · obtain ⟨-, -, -, -, hshort⟩ := capabilities_grammar (overrunOpen [65, 2, 0] [9, 9])
    exact hshort [1, 1, 0] _ 3 [] [] [65, 2, 0] 2 1 [9, 9] rfl rfl hother .nil
      (.value 65 (by decide))

end Capability

end RouteHealth
