import RouteHealth.Message
import RouteHealth.Proofs.Notification
import RouteHealth.Proofs.Open

/-!
# Receiving messages and writing them back

Only an OPEN and a NOTIFICATION can be too short to be received.  What is received has the type it was
received with, and `Message.ofParts_writtenBack` says exactly when it is written back as it was received.
-/

namespace RouteHealth

@[simp] theorem MessageType.octet_opening : MessageType.opening.octet = 1 := rfl
@[simp] theorem MessageType.octet_update : MessageType.update.octet = 2 := rfl
@[simp] theorem MessageType.octet_notification : MessageType.notification.octet = 3 := rfl
@[simp] theorem MessageType.octet_keepAlive : MessageType.keepAlive.octet = 4 := rfl

namespace Message

variable {type : UInt8} {body : Bytes}

/-! ## by type -/

theorem type_eq_of_ofCode? {t : MessageType} (h : Registry.ofCode? type.toNat = some t) :
    type = t.octet := by
  rw [MessageType.octet, Registry.code_of_ofCode? h, UInt8.ofNat_toNat]

theorem ne_octet_of_ofCode? (h : (Registry.ofCode? type.toNat : Option MessageType) = none)
    (t : MessageType) : type ≠ t.octet := by
  rintro rfl
  cases t <;> cases h

theorem ofParts_of_unknown (h : (Registry.ofCode? type.toNat : Option MessageType) = none) :
    ofParts type body = .ok (.other type body) := by
  rw [ofParts, h]

theorem ofParts_opening :
    ofParts MessageType.opening.octet body = (Open.ofBody body).map opening := rfl

theorem ofParts_update : ofParts MessageType.update.octet body = .ok (update body) := rfl

theorem ofParts_notification :
    ofParts MessageType.notification.octet body = (Notification.ofBody body).map notification := rfl

theorem ofParts_keepAlive : ofParts MessageType.keepAlive.octet body = .ok keepAlive := rfl

/-! ## what can be received -/

theorem ofParts_eq_error_iff (e : ReadError) :
    ofParts type body = .error e
      ↔ type = 1 ∧ body.length < 10 ∧ e = .notEnough 10 body.length
        ∨ type = 3 ∧ body.length < 2 ∧ e = .notEnough 2 body.length := by
  cases htype : (Registry.ofCode? type.toNat : Option MessageType) with
  | none =>
    have hopening := ne_octet_of_ofCode? htype .opening
    have hnotification := ne_octet_of_ofCode? htype .notification
    rw [ofParts_of_unknown htype]
    constructor
    · intro h
      cases h
    · rintro (⟨htype, -⟩ | ⟨htype, -⟩)
      · exact absurd htype hopening
      · exact absurd htype hnotification
  | some t =>
    obtain rfl := type_eq_of_ofCode? htype
    cases t with
    | opening =>
      rw [ofParts_opening]
      by_cases hshort : body.length < Open.fixedLength
      · rw [Open.ofBody_of_short hshort]
        simp [Except.map, show body.length < 10 from hshort, Open.fixedLength, eq_comm]
      · obtain ⟨m, hm⟩ := Open.exists_ofBody_of_long (Nat.not_lt.mp hshort)
        rw [hm]
        simp [Except.map, show ¬body.length < 10 from hshort]
    | update =>
      rw [ofParts_update]
      simp
    | notification =>
      rw [ofParts_notification]
      by_cases hshort : body.length < Notification.fixedLength
      · rw [Notification.ofBody_of_short hshort]
        simp [Except.map, show body.length < 2 from hshort, Notification.fixedLength, eq_comm]
      · obtain ⟨n, rfl⟩ := Notification.exists_body (Nat.not_lt.mp hshort)
        rw [n.ofBody_body]
        simp [Except.map, show ¬n.body.length < 2 from hshort]
    | keepAlive =>
      rw [ofParts_keepAlive]
      simp

/-! ## what is written back -/

theorem writtenBack_iff {m : Message} (h : ofParts type body = .ok m) :
    m.type = type
      ∧ (m.body = body ↔ (type ≠ 1 ∧ type ≠ 4) ∨ (type = 4 ∧ body = [])
        ∨ (type = 1 ∧ body[0]? = some 4
          ∧ body[9]?.map UInt8.toNat = some (body.drop 10).length)) := by
  cases htype : (Registry.ofCode? type.toNat : Option MessageType) with
  | none =>
    have hopening := ne_octet_of_ofCode? htype .opening
    have hkeepAlive := ne_octet_of_ofCode? htype .keepAlive
    rw [ofParts_of_unknown htype] at h
    obtain rfl := Except.ok.inj h
    exact ⟨rfl, iff_of_true rfl (.inl ⟨hopening, hkeepAlive⟩)⟩
  | some t =>
    obtain rfl := type_eq_of_ofCode? htype
    cases t with
    | opening =>
      rw [ofParts_opening] at h
      cases hbody : Open.ofBody body with
      | error e =>
        rw [hbody] at h
        cases h
      | ok content =>
        rw [hbody] at h
        obtain rfl := Except.ok.inj h
        refine ⟨rfl, (Open.body_eq_received_iff hbody).trans ?_⟩
        simp
    | update =>
      obtain rfl := Except.ok.inj h
      exact ⟨rfl, iff_of_true rfl (.inl (by decide))⟩
    | notification =>
      rw [ofParts_notification] at h
      cases hbody : Notification.ofBody body with
      | error e =>
        rw [hbody] at h
        cases h
      | ok content =>
        rw [hbody] at h
        obtain rfl := Except.ok.inj h
        have hlong : Notification.fixedLength ≤ body.length := by
          by_contra hshort
          rw [Notification.ofBody_of_short (Nat.lt_of_not_le hshort)] at hbody
          cases hbody
        obtain ⟨n, rfl⟩ := Notification.exists_body hlong
        rw [n.ofBody_body] at hbody
        obtain rfl := Except.ok.inj hbody
        exact ⟨rfl, iff_of_true rfl (.inl (by decide))⟩
    | keepAlive =>
      obtain rfl := Except.ok.inj h
      refine ⟨rfl, ?_⟩
      show [] = body ↔ _
      simp [eq_comm]

/-- **Receiving a message and writing it back.**  An OPEN of less than ten octets and a NOTIFICATION of
less than two are refused, and nothing else is.  What is received keeps its type.  It is written back as
it was received if it is neither an OPEN nor a KEEPALIVE; a KEEPALIVE only if it has no body; an OPEN
exactly if it has version 4 and declares as many octets of parameters as follow. -/
theorem ofParts_writtenBack (type : UInt8) (body : Bytes) :
    (∀ e, ofParts type body = .error e
        ↔ type = 1 ∧ body.length < 10 ∧ e = .notEnough 10 body.length
          ∨ type = 3 ∧ body.length < 2 ∧ e = .notEnough 2 body.length)
      ∧ ((∃ e, ofParts type body = .error e) ∨ ∃ m, ofParts type body = .ok m ∧ m.type = type
        ∧ (m.body = body ↔ (type ≠ 1 ∧ type ≠ 4) ∨ (type = 4 ∧ body = [])
          ∨ (type = 1 ∧ body[0]? = some 4
            ∧ body[9]?.map UInt8.toNat = some (body.drop 10).length))) := by
  refine ⟨fun e => ofParts_eq_error_iff e, ?_⟩
  cases hparts : ofParts type body with
  | error e => exact .inl ⟨e, rfl⟩
  | ok m => exact .inr ⟨m, rfl, writtenBack_iff hparts⟩

end Message

end RouteHealth
