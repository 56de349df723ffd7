import RouteHealth.Attribute.Decode
import RouteHealth.Proofs.Bytes

/-!
# Attributes written one after the other

Every attribute is a type, a length and a value.  `Attribute.encodeAll` writes any sequence of kinds
with their values: the first value of more than 65535 octets is the error (`encodeAll_eq`), and
otherwise reading gives back exactly that sequence, with the flags that the kinds and lengths ask for
(`readAll?_flatMap_tlv`).  The attributes that are written directly are no exception
(`encode_origin`, `encode_asPath`, `encode_nextHop`, `encode_multiExitDiscriminator`,
`encode_localPreference`).
-/

namespace RouteHealth.Attribute

/-! ## flags -/

theorem Flags.isExtended_forLength (f : Flags) (n : Nat) :
    (f.forLength n).isExtended = decide (255 < n) := by
  unfold Flags.forLength
  by_cases h : 255 < n
  · rw [if_pos h, decide_eq_true h]
    show ((f.bits ||| extendedBit) &&& extendedBit == extendedBit) = true
    rw [beq_iff_eq, ← UInt8.toBitVec_inj, UInt8.toBitVec_and, UInt8.toBitVec_or,
      BitVec.and_or_distrib_right, BitVec.and_self]
    apply BitVec.eq_of_getElem_eq
    intro i hi
    rw [BitVec.getElem_or, BitVec.getElem_and]
    cases f.bits.toBitVec[i] <;> simp
  · rw [if_neg h, decide_eq_false h]
    show ((f.bits &&& ~~~extendedBit) &&& extendedBit == extendedBit) = false
    rw [UInt8.and_assoc, UInt8.not_and_self, UInt8.and_zero]
    rfl

theorem Flags.isExtended_iff (f : Flags) : f.isExtended = true ↔ f.bits &&& 0x10 = 0x10 :=
  beq_iff_eq

theorem Kind.forLength_defaultFlags (kind : Kind) {n : Nat} (h : n ≤ 255) :
    kind.defaultFlags.forLength n = kind.defaultFlags := by
  rw [Flags.forLength, if_neg (by omega)]
  cases kind <;> rfl

theorem Kind.bits_forLength (kind : Kind) (n : Nat) : (kind.defaultFlags.forLength n).bits
    = kind.defaultFlags.bits ||| if 255 < n then 0x10 else 0 := by
  by_cases h : 255 < n
  · rw [Flags.forLength, if_pos h, if_pos h]
    rfl
  · rw [kind.forLength_defaultFlags (Nat.le_of_not_lt h), if_neg h, UInt8.or_zero]

/-! ## one attribute -/

def lengthField (n : Nat) : Bytes :=
  if 255 < n then Bytes.ofWord16 (UInt16.ofNat n) else [(UInt16.ofNat n).toUInt8]

/-- the number of octets of an attribute whose value has `n` octets -/
def wireLength (n : Nat) : Nat := if n ≤ 255 then n + 3 else n + 4

def tlv (kind : Kind) (value : Bytes) : Bytes :=
  header (kind.defaultFlags.forLength value.length) kind (UInt16.ofNat value.length) ++ value

/-- the attribute that is read where one of a given kind and value was written -/
def Encoded.ofValue (kind : Kind) (value : Bytes) : Encoded :=
  ⟨kind.defaultFlags.forLength value.length, UInt8.ofNat (Registry.code kind), value⟩

theorem Encoded.wide_ofValue (kind : Kind) (value : Bytes) :
    (ofValue kind value).flags.bits &&& 0x10 = 0x10 ↔ 255 < value.length := by
  rw [← Flags.isExtended_iff, ofValue, Flags.isExtended_forLength, decide_eq_true_iff]

theorem encode_eq (kind : Kind) (value : Bytes) :
    encode kind value = if 65535 < value.length then .error (.attributeTooLarge kind value.length)
      else .ok (tlv kind value) := rfl

theorem length_lengthField (n : Nat) : (lengthField n).length = if 255 < n then 2 else 1 := by
  unfold lengthField
  split
  · exact Bytes.length_ofWord16 _
  · rfl

theorem toNat_lengthField {n : Nat} (h : n ≤ 65535) : Bytes.toNat (lengthField n) = n := by
  have hn : (UInt16.ofNat n).toNat = n := by
    rw [UInt16.toNat_ofNat']
    exact Nat.mod_eq_of_lt (by omega)
  unfold lengthField
  split
  · rw [Bytes.toNat_ofWord16, hn]
  · rw [Bytes.toNat_singleton, UInt16.toNat_toUInt8, hn]
    exact Nat.mod_eq_of_lt (by omega)

theorem tlv_eq (kind : Kind) (value : Bytes) :
    tlv kind value = (Encoded.ofValue kind value).flags.bits :: (Encoded.ofValue kind value).type ::
      (lengthField value.length ++ value) := by
  rw [tlv, header, Flags.isExtended_forLength, lengthField]
  by_cases h : 255 < value.length
  · rw [decide_eq_true h, if_pos h]
    rfl
  · rw [decide_eq_false h, if_neg h]
    rfl

theorem length_tlv (kind : Kind) (value : Bytes) :
    (tlv kind value).length = wireLength value.length := by
  rw [tlv_eq, List.length_cons, List.length_cons, List.length_append, length_lengthField, wireLength]
  split <;> split <;> omega

/-- an attribute at the front is read, and the rest is read as it would be without it -/
theorem readAll?_tlv_append (kind : Kind) {value : Bytes} (h : value.length ≤ 65535) (rest : Bytes) :
    readAll? (tlv kind value ++ rest) = (readAll? rest).map (Encoded.ofValue kind value :: ·) := by
  have hwidth : (if (Encoded.ofValue kind value).flags.bits &&& 0x10 = 0x10 then 2 else 1)
      = (lengthField value.length).length := by
    rw [length_lengthField]
    exact if_congr (Encoded.wide_ofValue kind value) rfl rfl
  rw [tlv_eq, List.cons_append, List.cons_append, List.append_assoc, readAll?]
  show (if ((lengthField value.length ++ (value ++ rest)).take _).length = _ ∧ _ then _ else _) = _
  rw [hwidth, List.take_left, List.drop_left, toNat_lengthField h, List.take_left, List.drop_left,
    if_pos ⟨rfl, rfl⟩]
  rfl

/-! ## the attributes that are written directly -/

theorem encode_eq_header {kind : Kind} {value : Bytes} (h : value.length ≤ 255) :
    encode kind value
      = .ok (header kind.defaultFlags kind (UInt16.ofNat value.length) ++ value) := by
  rw [encode_eq, if_neg (by omega), tlv, kind.forLength_defaultFlags h]

theorem encode_origin (o : Origin) :
    encode .origin [UInt8.ofNat (Registry.code o)] = .ok (origin o) :=
  encode_eq_header (Nat.le_of_ble_eq_true rfl)

def asPathValue (asn : UInt16) (external : Bool) : Bytes :=
  if external then asSequence :: 1 :: Bytes.ofWord16 asn else []

theorem encode_asPath (asn : UInt16) (external : Bool) :
    encode .asPath (asPathValue asn external) = .ok (asPath asn external) := by
  cases external with
  | false => exact encode_eq_header (Nat.zero_le 255)
  | true =>
    have hlen : (asPathValue asn true).length = 4 := by
      show (Bytes.ofWord16 asn).length + 1 + 1 = 4
      rw [Bytes.length_ofWord16]
    rw [encode_eq_header (by omega), hlen]
    rfl

theorem encode_nextHop (a : IPv4) : encode .nextHop a.octets = .ok (nextHop a) := by
  have hlen := a.length_octets
  rw [encode_eq_header (by omega), hlen]
  rfl

theorem encode_multiExitDiscriminator (med : UInt32) :
    encode .multiExitDiscriminator (Bytes.ofWord32 med) = .ok (multiExitDiscriminator med) := by
  have hlen := Bytes.length_ofWord32 med
  rw [encode_eq_header (by omega), hlen]
  rfl

theorem encode_localPreference (pref : UInt32) :
    encode .localPreference (Bytes.ofWord32 pref) = .ok (localPreference pref) := by
  have hlen := Bytes.length_ofWord32 pref
  rw [encode_eq_header (by omega), hlen]
  rfl

/-! ## many attributes -/

/-- the attributes of some kinds and values, one after the other -/
def encodeAll : List (Kind × Bytes) → Except RenderError Bytes
  | [] => .ok []
  | v :: vs => do
    let first ← encode v.1 v.2
    let rest ← encodeAll vs
    return first ++ rest

theorem encodeAll_cons_of_ok {v : Kind × Bytes} {vs : List (Kind × Bytes)} {first rest : Bytes}
    (hv : encode v.1 v.2 = .ok first) (hvs : encodeAll vs = .ok rest) :
    encodeAll (v :: vs) = .ok (first ++ rest) := by
  rw [encodeAll, hv, hvs]
  rfl

theorem encodeAll_append (vs ws : List (Kind × Bytes)) :
    encodeAll (vs ++ ws) = do
      let first ← encodeAll vs
      let rest ← encodeAll ws
      return first ++ rest := by
  induction vs with
  | nil =>
    show encodeAll ws = encodeAll ws >>= fun rest => pure ([] ++ rest)
    simp
  | cons v vs ih =>
    rw [List.cons_append, encodeAll, ih, encodeAll]
    simp only [bind_assoc, pure_bind, List.append_assoc]

theorem encodeAll_singleton (v : Kind × Bytes) : encodeAll [v] = encode v.1 v.2 := by
  rw [encodeAll, encodeAll]
  show encode v.1 v.2 >>= (fun first => pure (first ++ [])) = _
  simp

/-- the first attribute whose value is too long -/
def overlong? (vs : List (Kind × Bytes)) : Option (Kind × Bytes) := vs.find? (65535 < ·.2.length)

/-- the first value that is too long is the error, and without one all are written -/
theorem encodeAll_eq (vs : List (Kind × Bytes)) :
    encodeAll vs = match overlong? vs with
      | some v => .error (.attributeTooLarge v.1 v.2.length)
      | none => .ok (vs.flatMap fun v => tlv v.1 v.2) := by
  induction vs with
  | nil => rfl
  | cons v vs ih =>
    rw [encodeAll, encode_eq, overlong?, List.find?_cons, ← overlong?]
    by_cases h : 65535 < v.2.length
    · rw [if_pos h, decide_eq_true h]
      rfl
    · rw [if_neg h, decide_eq_false h, ih]
      cases overlong? vs <;> rfl

theorem overlong?_eq_none_iff (vs : List (Kind × Bytes)) :
    overlong? vs = none ↔ ∀ v ∈ vs, v.2.length ≤ 65535 := by
  rw [overlong?, List.find?_eq_none]
  simp

theorem length_flatMap_tlv (vs : List (Kind × Bytes)) :
    (vs.flatMap fun v => tlv v.1 v.2).length = (vs.map fun v => wireLength v.2.length).sum := by
  rw [List.length_flatMap]
  exact congrArg List.sum (List.map_congr_left fun v _ => length_tlv v.1 v.2)

/-- the attributes that were written are read, and what follows them as it would be without them -/
theorem readAll?_flatMap_tlv_append {vs : List (Kind × Bytes)} (h : ∀ v ∈ vs, v.2.length ≤ 65535)
    (rest : Bytes) : readAll? ((vs.flatMap fun v => tlv v.1 v.2) ++ rest)
      = (readAll? rest).map ((vs.map fun v => Encoded.ofValue v.1 v.2) ++ ·) := by
  induction vs with
  | nil => exact Option.map_id'.symm
  | cons v vs ih =>
    rw [List.flatMap_cons, List.append_assoc, readAll?_tlv_append v.1 (h v (List.mem_cons_self ..)),
      ih fun w hw => h w (List.mem_cons_of_mem _ hw), Option.map_map, List.map_cons]
    rfl

/-- reading gives back the kinds and values that were written -/
theorem readAll?_flatMap_tlv {vs : List (Kind × Bytes)} (h : ∀ v ∈ vs, v.2.length ≤ 65535) :
    readAll? (vs.flatMap fun v => tlv v.1 v.2) = some (vs.map fun v => .ofValue v.1 v.2) := by
  have hread := readAll?_flatMap_tlv_append h []
  rw [List.append_nil, readAll?, Option.map_some, List.append_nil] at hread
  exact hread

end RouteHealth.Attribute
