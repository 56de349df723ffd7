import RouteHealth.Proofs.Attribute.Value

/-!
# One format for all attributes

Attributes that stand one after the other need nothing between them: each says by its flags how wide its
length is, and by its length where it ends.  So any sequence of kinds and values is read back as it was
written, whatever follows it, and the attributes that are written directly have the same form as the
others (`Attribute.selfDelimiting`).
-/

namespace RouteHealth.Attribute

/-- what is read where an attribute of a kind and value was written: the kind's own flags, and the bit for
a wide length exactly if the value has more than 255 octets -/
structure Encoded.Shows (e : Encoded) (kind : Kind) (value : Bytes) : Prop where
  type : Registry.ofCode? e.type.toNat = some kind
  octets : e.value = value
  bits : e.flags.bits
    = kind.defaultFlags.bits ||| if 255 < value.length then Flags.extendedBit else 0
  wide : e.flags.isExtended = true ↔ 255 < value.length

theorem Kind.ofCode?_code (kind : Kind) : Registry.ofCode? (Registry.code kind) = some kind := by
  cases kind <;> rfl

theorem Encoded.shows_ofValue (kind : Kind) (value : Bytes) :
    (Encoded.ofValue kind value).Shows kind value where
  type := by
    have hcode : (UInt8.ofNat (Registry.code kind)).toNat = Registry.code kind := by
      cases kind <;> rfl
    show Registry.ofCode? (UInt8.ofNat (Registry.code kind)).toNat = some kind
    rw [hcode, kind.ofCode?_code]
  octets := rfl
  bits := kind.bits_forLength value.length
  wide := by
    show (kind.defaultFlags.forLength value.length).isExtended = true ↔ _
    rw [Flags.isExtended_forLength, decide_eq_true_iff]

theorem mapM_encode {vs : List (Kind × Bytes)} (h : ∀ v ∈ vs, v.2.length ≤ 65535) :
    vs.mapM (fun v => encode v.1 v.2) = .ok (vs.map fun v => tlv v.1 v.2) := by
  apply mapM_eq_pure_map
  intro v hv
  rw [encode_eq, if_neg (Nat.not_lt.mpr (h v hv))]
  rfl

/-- **Attributes share one format, in which they end by themselves.**  A sequence of kinds and values of
at most 65535 octets is written one after the other and read back as it is, with the flags of its kinds
and lengths, and what follows it is read as it would be alone.  A longer value is an error that names its
kind and size.  The attributes of known length are the same as if they were written by way of their
values: the octet of the origin, no segment or one with the own AS number, the octets of the address, and
the numbers with their most significant octet first. -/
theorem selfDelimiting :
    (∀ vs : List (Kind × Bytes), (∀ v ∈ vs, v.2.length ≤ 65535) → ∃ parts encoded,
        vs.mapM (fun v => encode v.1 v.2) = .ok parts
          ∧ readAll? parts.flatten = some encoded
          ∧ (∀ rest, readAll? (parts.flatten ++ rest) = (readAll? rest).map (encoded ++ ·))
          ∧ List.Forall₂ (fun v e => e.Shows v.1 v.2) vs encoded)
      ∧ (∀ kind (value : Bytes), 65535 < value.length →
        encode kind value = .error (.attributeTooLarge kind value.length))
      ∧ (∀ o, encode .origin [UInt8.ofNat (Registry.code o)] = .ok (origin o))
      ∧ (∀ asn, encode .asPath [] = .ok (asPath asn false)
        ∧ encode .asPath ([2, 1] ++ Bytes.ofWord16 asn) = .ok (asPath asn true))
      ∧ (∀ a : IPv4, encode .nextHop a.octets = .ok (nextHop a))
      ∧ (∀ med, encode .multiExitDiscriminator (Bytes.ofWord32 med)
        = .ok (multiExitDiscriminator med))
      ∧ ∀ pref, encode .localPreference (Bytes.ofWord32 pref) = .ok (localPreference pref) := by
  refine ⟨?_, ?_, encode_origin, ?_, encode_nextHop, encode_multiExitDiscriminator,
    encode_localPreference⟩
  · intro vs h
    have hflat : (vs.map fun v => tlv v.1 v.2).flatten = vs.flatMap fun v => tlv v.1 v.2 :=
      List.flatMap_def.symm
    refine ⟨_, vs.map fun v => .ofValue v.1 v.2, mapM_encode h, ?_, ?_, ?_⟩
    · rw [hflat, readAll?_flatMap_tlv h]
    · intro rest
      rw [hflat, readAll?_flatMap_tlv_append h]
    · rw [List.forall₂_map_right_iff, List.forall₂_same]
      intro v _
      exact Encoded.shows_ofValue v.1 v.2
  · intro kind value h
    rw [encode_eq, if_pos h]
  · intro asn
    exact ⟨encode_asPath asn false, encode_asPath asn true⟩

/-- values at the step from a narrow to a wide length, with an empty one between them -/
def stepValues : List (Kind × Bytes) :=
  [(.communities, List.replicate 255 7), (.asPath, []), (.communities, List.replicate 256 7)]

theorem selfDelimiting_step :
    (∃ parts encoded, stepValues.mapM (fun v => encode v.1 v.2) = .ok parts
        ∧ readAll? parts.flatten = some encoded ∧ encoded.map (·.flags.bits) = [0xC0, 0x40, 0xD0])
      ∧ encode .communities (List.replicate 65536 7) = .error (.attributeTooLarge .communities 65536) := by
  obtain ⟨hsequence, hlong, -⟩ := selfDelimiting
  constructor
  · obtain ⟨parts, encoded, hparts, hread, -, hshows⟩ := hsequence stepValues (by decide +kernel)
    refine ⟨parts, encoded, hparts, hread, ?_⟩
    cases hshows with
    | cons hnarrow hshows =>
      cases hshows with
      | cons hempty hshows =>
        cases hshows with
        | cons hwide hshows =>
          cases hshows
          rw [List.map_cons, List.map_cons, List.map_singleton, hnarrow.bits, hempty.bits, hwide.bits,
            List.length_replicate, List.length_replicate]
          rfl
  · have herror := hlong .communities (List.replicate 65536 7)
    rw [List.length_replicate] at herror
    exact herror (by decide)

end RouteHealth.Attribute
