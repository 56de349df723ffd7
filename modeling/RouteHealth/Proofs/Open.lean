import RouteHealth.Open
import RouteHealth.Proofs.Capability
import RouteHealth.Proofs.Reading

/-!
# OPEN bodies and back

`Open.octets` is any OPEN body by its parts, with a declared length that need not be right.  Every
string of at least ten octets is one (`Open.exists_octets`), and reading it gives its parts
(`Open.ofBody_octets`).  A body that is written declares the right length, and its parameters offer
IPv6 exactly if the message does, as far as the flag of the message can be told from its parameters
(`Open.offersIPv6_writtenParameters`).  So a first pass through writing and reading brings a message
into a form that further passes leave alone (`Open.reread_body`).
-/

namespace RouteHealth

namespace Open

/-! ## bodies by their parts -/

/-- the body with given parts, whatever length it declares -/
def octets (version : UInt8) (asn holdTime : UInt16) (routerId : IPv4) (declared : UInt8)
    (block : Bytes) : Bytes :=
  version :: Bytes.ofWord16 asn ++ Bytes.ofWord16 holdTime ++ routerId.octets ++ declared :: block

section

variable (version : UInt8) (asn holdTime : UInt16) (routerId : IPv4) (declared : UInt8)
  (block : Bytes)

/-- the parts of a body, read from the octets that stand for them -/
theorem ofBody_octets :
    ofBody (octets version asn holdTime routerId declared block)
      = .ok { version, asn, holdTime, routerId, multiprotocol := offersIPv6 block,
              parameters := block } := by
  have hlength : fixedLength ≤ (octets version asn holdTime routerId declared block).length := by
    simp only [octets, List.length_append, List.length_cons, Bytes.length_ofWord16,
      routerId.length_octets, fixedLength]
    omega
  unfold ofBody reader
  rw [Reader.runOn_bind_of_ok (Reader.runOn_require_of_le hlength)]
  simp only [octets, List.cons_append, List.append_assoc]
  rw [Reader.runOn_bind_of_ok (Reader.runOn_octet_cons _ _),
    Reader.runOn_bind_of_ok (Reader.runOn_word16_append _ _),
    Reader.runOn_bind_of_ok (Reader.runOn_word16_append _ _),
    Reader.runOn_bind_of_ok (Reader.runOn_ipv4_append _ _),
    Reader.runOn_bind_of_ok (Reader.runOn_octet_cons _ _),
    Reader.runOn_bind_of_ok (Reader.runOn_rest _), Reader.runOn_pure]

theorem head_octets : (octets version asn holdTime routerId declared block)[0]? = some version := rfl

theorem declared_octets :
    (octets version asn holdTime routerId declared block)[9]? = some declared := by
  obtain ⟨a, b, c, d, h⟩ := routerId.exists_octets
  rw [octets, h]
  rfl

theorem drop_octets :
    (octets version asn holdTime routerId declared block).drop fixedLength = block := by
  obtain ⟨a, b, c, d, h⟩ := routerId.exists_octets
  rw [octets, h]
  rfl

theorem length_octets :
    (octets version asn holdTime routerId declared block).length = fixedLength + block.length := by
  obtain ⟨a, b, c, d, h⟩ := routerId.exists_octets
  rw [octets, h]
  show block.length + 10 = 10 + block.length
  omega

theorem octets_eq_iff (version' declared' : UInt8) (block' : Bytes) :
    octets version asn holdTime routerId declared block
        = octets version' asn holdTime routerId declared' block'
      ↔ version = version' ∧ declared = declared' ∧ block = block' := by
  simp only [octets, List.cons_append, List.append_assoc, List.cons.injEq,
    List.append_cancel_left_eq]

end

theorem ofBody_of_short {body : Bytes} (h : body.length < fixedLength) :
    ofBody body = .error (.notEnough fixedLength body.length) := by
  unfold ofBody reader
  rw [Reader.runOn_bind_of_error (Reader.runOn_require_of_lt h)]

/-- every string of at least ten octets is a body -/
theorem exists_octets {body : Bytes} (h : fixedLength ≤ body.length) :
    ∃ version asn holdTime routerId declared block,
      body = octets version asn holdTime routerId declared block := by
  match body, h with
  | version :: a₁ :: a₂ :: h₁ :: h₂ :: r₁ :: r₂ :: r₃ :: r₄ :: declared :: block, _ =>
    refine ⟨version, .ofNat (Bytes.toNat [a₁, a₂]), .ofNat (Bytes.toNat [h₁, h₂]),
      ⟨[r₁, r₂, r₃, r₄], rfl⟩, declared, block, ?_⟩
    rw [octets, Bytes.ofWord16_ofNat_toNat, Bytes.ofWord16_ofNat_toNat]
    rfl

theorem exists_ofBody_of_long {body : Bytes} (h : fixedLength ≤ body.length) :
    ∃ m, ofBody body = .ok m := by
  obtain ⟨version, asn, holdTime, routerId, declared, block, rfl⟩ := exists_octets h
  exact ⟨_, ofBody_octets ..⟩

/-- a message that was read, and what it was read from -/
theorem exists_octets_of_ofBody {body : Bytes} {m : Open} (h : ofBody body = .ok m) :
    ∃ declared, body = octets m.version m.asn m.holdTime m.routerId declared m.parameters
      ∧ m.multiprotocol = offersIPv6 m.parameters := by
  have hlong : fixedLength ≤ body.length := by
    by_contra hshort
    rw [ofBody_of_short (Nat.lt_of_not_le hshort)] at h
    cases h
  obtain ⟨version, asn, holdTime, routerId, declared, block, rfl⟩ := exists_octets hlong
  rw [ofBody_octets] at h
  obtain rfl := Except.ok.inj h
  exact ⟨declared, rfl, rfl⟩

/-! ## the parameters that are written -/

theorem offersIPv6_nil : offersIPv6 [] = false := by
  rw [offersIPv6, Capability.ofParameters, Item.readAll]
  rfl

/-- a block of offers offers IPv6 exactly if it is among them -/
theorem offersIPv6_offers (ms : List Multiprotocol) :
    offersIPv6 (ms.flatMap fun m => m.parameter.octets)
      = ms.any fun m => m = .ipv6Unicast := by
  rw [offersIPv6, Capability.ofParameters_offers]
  show (ms.map Multiprotocol.capability).any _ = _
  rw [List.any_map]
  congr 1
  funext m
  show decide (m.capability.multiprotocol? = some .ipv6Unicast) = _
  rw [m.multiprotocol?_capability]
  simp

/-- whether the parameters of a message are written back: there are some, and a length octet can
count them -/
def KeepsParameters (m : Open) : Prop := m.parameters ≠ [] ∧ m.parameters.length ≤ 255

section

variable {m : Open}

theorem not_keepsParameters_iff :
    ¬m.KeepsParameters ↔ m.parameters = [] ∨ 255 < m.parameters.length := by
  rw [KeepsParameters, not_and_or, not_not, not_le]

theorem writtenParameters_of_keeps (h : m.KeepsParameters) : m.writtenParameters = m.parameters :=
  if_pos h

theorem writtenParameters_of_not_keeps (h : ¬m.KeepsParameters) :
    m.writtenParameters = (if m.multiprotocol then [Multiprotocol.ipv6Unicast, .ipv4Unicast]
      else []).flatMap fun o => o.parameter.octets := by
  have hmade : m.writtenParameters = if m.multiprotocol then _ else [] := if_neg h
  rw [hmade]
  cases m.multiprotocol <;> rfl

theorem length_writtenParameters_le (m : Open) : m.writtenParameters.length ≤ 255 := by
  by_cases h : m.KeepsParameters
  · rw [writtenParameters_of_keeps h]
    exact h.2
  · rw [writtenParameters_of_not_keeps h]
    cases m.multiprotocol <;> decide

/-- a reader of the written parameters finds the flag of the message: made parameters offer what it
says, and in a message that was read it was found in the parameters -/
theorem offersIPv6_writtenParameters
    (h : m.KeepsParameters → m.multiprotocol = offersIPv6 m.parameters) :
    offersIPv6 m.writtenParameters = m.multiprotocol := by
  by_cases hkeeps : m.KeepsParameters
  · rw [writtenParameters_of_keeps hkeeps, h hkeeps]
  · rw [writtenParameters_of_not_keeps hkeeps, offersIPv6_offers]
    cases m.multiprotocol <;> rfl

/-- the parameters of a message that was read are written unless there are too many -/
theorem writtenParameters_eq_iff (h : m.multiprotocol = offersIPv6 m.parameters) :
    m.writtenParameters = m.parameters ↔ m.parameters.length ≤ 255 := by
  constructor
  · intro hwritten
    rw [← hwritten]
    exact m.length_writtenParameters_le
  · intro hlen
    by_cases hnil : m.parameters = []
    · have hmade : ¬m.KeepsParameters := fun hkeeps => hkeeps.1 hnil
      have hflag : m.multiprotocol = false := by rw [h, hnil, offersIPv6_nil]
      rw [writtenParameters_of_not_keeps hmade, hflag, hnil]
      rfl
    · exact writtenParameters_of_keeps ⟨hnil, hlen⟩

end

/-! ## bodies that are written -/

theorem body_eq (m : Open) :
    m.body = octets protocolVersion m.asn m.holdTime m.routerId
      (UInt8.ofNat m.writtenParameters.length) m.writtenParameters := rfl

theorem toNat_length_writtenParameters (m : Open) :
    (UInt8.ofNat m.writtenParameters.length).toNat = m.writtenParameters.length := by
  have hlen := m.length_writtenParameters_le
  rw [UInt8.toNat_ofNat']
  exact Nat.mod_eq_of_lt (by omega)

/-- the message that a body which was written is read as -/
def reread (m : Open) : Open where
  version := protocolVersion
  asn := m.asn
  holdTime := m.holdTime
  routerId := m.routerId
  multiprotocol := offersIPv6 m.writtenParameters
  parameters := m.writtenParameters

theorem ofBody_body (m : Open) : ofBody m.body = .ok m.reread := ofBody_octets ..

theorem body_reread (m : Open) : m.reread.body = m.body := by
  have hwritten : m.reread.writtenParameters = m.writtenParameters :=
    (writtenParameters_eq_iff rfl).mpr m.length_writtenParameters_le
  rw [body_eq, hwritten]
  rfl

/-- **A message is written as a well-formed body, which is read back and written again without
change.**  The body has version 4 and declares the length of its parameters.  Reading it gives the
message with version 4 and the written parameters; these are the message's own where there are any and a
length octet can count them.  The flag comes back where it decides the parameters that are written, and
in a message that was itself read, whatever from. -/
theorem reread_body (m : Open) :
    m.body[0]? = some 4
      ∧ m.body[9]?.map UInt8.toNat = some (m.body.length - 10)
      ∧ ∃ m', ofBody m.body = .ok m'
        ∧ m'.version = 4 ∧ m'.asn = m.asn ∧ m'.holdTime = m.holdTime ∧ m'.routerId = m.routerId
        ∧ m'.body = m.body
        ∧ (1 ≤ m.parameters.length ∧ m.parameters.length ≤ 255 → m'.parameters = m.parameters)
        ∧ (m.parameters = [] ∨ 255 < m.parameters.length ∨ (∃ received, ofBody received = .ok m) →
          m'.multiprotocol = m.multiprotocol) := by
  have hdeclared : m.body[9]?.map UInt8.toNat = some (m.body.length - 10) := by
    rw [body_eq, declared_octets, length_octets, Option.map_some, toNat_length_writtenParameters,
      fixedLength, Nat.add_sub_cancel_left]
  refine ⟨rfl, hdeclared, m.reread, m.ofBody_body, rfl, rfl, rfl, rfl, m.body_reread, ?_, ?_⟩
  · rintro ⟨hpos, hlen⟩
    exact writtenParameters_of_keeps ⟨List.ne_nil_of_length_pos hpos, hlen⟩
  · intro h
    apply offersIPv6_writtenParameters
    intro hkeeps
    rcases h with hnil | hlong | ⟨received, hreceived⟩
    · exact absurd hkeeps (not_keepsParameters_iff.mpr (.inl hnil))
    · exact absurd hkeeps (not_keepsParameters_iff.mpr (.inr hlong))
    · obtain ⟨declared, -, hflag⟩ := exists_octets_of_ofBody hreceived
      exact hflag

/-- a message that was read is written as it was received exactly if the received body has version 4
and declares the right length; one with more parameters than can be declared never is -/
theorem body_eq_received_iff {received : Bytes} {m : Open} (h : ofBody received = .ok m) :
    m.body = received
      ↔ received[0]? = some 4 ∧ received[9]?.map UInt8.toNat = some (received.drop 10).length := by
  obtain ⟨declared, rfl, hflag⟩ := exists_octets_of_ofBody h
  have hdrop := drop_octets m.version m.asn m.holdTime m.routerId declared m.parameters
  have hlength := m.toNat_length_writtenParameters
  rw [fixedLength] at hdrop
  rw [head_octets, declared_octets, hdrop, body_eq, octets_eq_iff, Option.map_some,
    Option.some.injEq, Option.some.injEq]
  constructor
  · rintro ⟨hversion, hdeclared, hwritten⟩
    rw [hdeclared, hwritten] at hlength
    exact ⟨hversion.symm, hlength⟩
  · rintro ⟨hversion, hdeclared⟩
    have hlen : m.parameters.length ≤ 255 := by
      have hlt : declared.toNat < 256 := declared.toNat_lt
      omega
    have hwritten := (writtenParameters_eq_iff hflag).mpr hlen
    refine ⟨hversion.symm, ?_, hwritten⟩
    rw [hwritten, ← hdeclared, UInt8.ofNat_toNat]

/-- a message that was read from a body which declares four octets too few, with an offer of IPv6 before
a parameter that is cut short -/
theorem reread_body_cutShort :
    ∃ m, ofBody [3, 0, 1, 0, 3, 1, 1, 1, 1, 6, 2, 6, 1, 4, 0, 2, 0, 1, 2, 6] = .ok m
      ∧ ∃ m', ofBody m.body = .ok m' ∧ m'.version = 4
        ∧ m'.parameters = [2, 6, 1, 4, 0, 2, 0, 1, 2, 6] ∧ m'.multiprotocol = m.multiprotocol := by
  have hread := ofBody_octets 3 1 3 ⟨[1, 1, 1, 1], rfl⟩ 6 [2, 6, 1, 4, 0, 2, 0, 1, 2, 6]
  obtain ⟨-, -, m', hm', hversion, -, -, -, -, hparameters, hflag⟩ := reread_body _
  exact ⟨_, hread, m', hm', hversion, hparameters (by decide), hflag (.inr (.inr ⟨_, hread⟩))⟩

end Open

end RouteHealth
