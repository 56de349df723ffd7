import RouteHealth.Notification
import RouteHealth.Proofs.Reading
import RouteHealth.Proofs.Registry

/-!
# NOTIFICATION bodies and back

The two codes of a fault are kept, whether or not they are assigned (`Fault.codes_ofCodes`), and a fault is
read from its codes as it was unless it is unknown by a number that is assigned (`Fault.ofCodes_codes_iff`).
A NOTIFICATION is any two octets and what follows them; reading and writing one, in either order, change
nothing (`Notification.faults_kept`).
-/

namespace RouteHealth

/-! ## the tables of subcodes -/

instance : LawfulOpenRegistry HeaderFault where
instance : LawfulOpenRegistry OpenFault where
instance : LawfulOpenRegistry UpdateFault where
instance : LawfulOpenRegistry StateFault where
instance : LawfulOpenRegistry CeaseReason where

/-! ## faults -/

namespace Fault

/-- whether a fault is unknown by a number that is assigned: as its code, or in its category as its
subcode -/
def HidesAssigned : Fault → Prop
  | reserved _ => False
  | header fault => ∃ n, fault = .unknown n ∧ n.toNat ∈ [0, 1, 2, 3]
  | openMessage fault => ∃ n, fault = .unknown n ∧ n.toNat ∈ [0, 1, 2, 3, 4, 6, 7, 11]
  | updateMessage fault =>
    ∃ n, fault = .unknown n ∧ n.toNat ∈ [0, 1, 2, 3, 4, 5, 6, 8, 9, 10, 11]
  | holdTimerExpired _ => False
  | stateMachine fault => ∃ n, fault = .unknown n ∧ n.toNat ∈ [0, 1, 2, 3]
  | cease reason => ∃ n, reason = .unknown n ∧ n.toNat ∈ [0, 1, 2, 3, 4, 5, 6, 7, 8, 9]
  | unknown code _ => code.toNat ≤ 6

theorem eq_ofNat_of_toNat {code : UInt8} {k : Nat} (h : code.toNat = k) : UInt8.ofNat k = code := by
  rw [← h, UInt8.ofNat_toNat]

theorem codes_ofCodes (code subcode : UInt8) : (ofCodes code subcode).codes = (code, subcode) := by
  unfold ofCodes
  split
  next h => exact Prod.ext (eq_ofNat_of_toNat h) rfl
  next h => exact Prod.ext (eq_ofNat_of_toNat h) (OpenRegistry.octet_ofCode subcode)
  next h => exact Prod.ext (eq_ofNat_of_toNat h) (OpenRegistry.octet_ofCode subcode)
  next h => exact Prod.ext (eq_ofNat_of_toNat h) (OpenRegistry.octet_ofCode subcode)
  next h => exact Prod.ext (eq_ofNat_of_toNat h) rfl
  next h => exact Prod.ext (eq_ofNat_of_toNat h) (OpenRegistry.octet_ofCode subcode)
  next h => exact Prod.ext (eq_ofNat_of_toNat h) (OpenRegistry.octet_ofCode subcode)
  next => rfl

theorem ofCodes_eq_unknown_iff (code subcode : UInt8) :
    ofCodes code subcode = unknown code subcode ↔ ¬code.toNat ≤ 6 := by
  unfold ofCodes
  split
  case h_8 =>
    apply iff_of_true rfl
    simp only [imp_false] at *
    omega
  all_goals exact iff_of_false (fun h => by cases h) (by omega)

/-- a fault of a category is kept exactly if its subcode is -/
theorem category_ofCode_iff {α : Type} [OpenRegistry α] [LawfulOpenRegistry α] {category : α → Fault}
    (hinj : ∀ a b, category a = category b → a = b) (a : α) :
    category (OpenRegistry.ofCode (OpenRegistry.octet a)) = category a
      ↔ ¬∃ n, a = OpenRegistry.unknown n ∧ n.toNat ∈ Registry.assigned α := by
  rw [← OpenRegistry.ofCode_octet_iff]
  exact ⟨hinj _ _, congrArg category⟩

theorem ofCodes_codes_iff (f : Fault) : ofCodes f.codes.1 f.codes.2 = f ↔ ¬f.HidesAssigned := by
  cases f with
  | reserved subcode => exact iff_of_true rfl id
  | header fault => exact category_ofCode_iff (fun _ _ => header.inj) fault
  | openMessage fault => exact category_ofCode_iff (fun _ _ => openMessage.inj) fault
  | updateMessage fault => exact category_ofCode_iff (fun _ _ => updateMessage.inj) fault
  | holdTimerExpired subcode => exact iff_of_true rfl id
  | stateMachine fault => exact category_ofCode_iff (fun _ _ => stateMachine.inj) fault
  | cease reason => exact category_ofCode_iff (fun _ _ => cease.inj) reason
  | unknown code subcode => exact ofCodes_eq_unknown_iff code subcode

end Fault

namespace Notification

theorem ofBody_of_short {body : Bytes} (h : body.length < fixedLength) :
    ofBody body = .error (.notEnough fixedLength body.length) := by
  unfold ofBody reader
  rw [Reader.runOn_bind_of_error (Reader.runOn_require_of_lt h)]

theorem ofBody_body (n : Notification) : ofBody n.body = .ok n := by
  have hlength : fixedLength ≤ n.body.length := by
    show 2 ≤ n.data.length + 2
    omega
  unfold ofBody reader
  rw [Reader.runOn_bind_of_ok (Reader.runOn_require_of_le hlength), body,
    Reader.runOn_bind_of_ok (Reader.runOn_octet_cons _ _),
    Reader.runOn_bind_of_ok (Reader.runOn_octet_cons _ _),
    Reader.runOn_bind_of_ok (Reader.runOn_rest _), Reader.runOn_pure]

theorem exists_body {body : Bytes} (h : fixedLength ≤ body.length) :
    ∃ n : Notification, n.body = body := by
  match body, h with
  | code :: subcode :: data, _ => exact ⟨⟨code, subcode, data⟩, rfl⟩

/-- **Faults are kept on the way through a NOTIFICATION.**  Two octets are enough to read one; what was
read is written as it was, names the codes that stand in the first two octets, and is the message that the
fault it names makes with its data.  A message made of any fault is read back, with the codes of the
fault; the fault itself comes back exactly if it is not unknown by an assigned number. -/
theorem faults_kept (body : Bytes) (f : Fault) (data : Bytes) :
    (2 ≤ body.length → ∃ n, ofBody body = .ok n ∧ n.body = body
        ∧ [n.fault.codes.1, n.fault.codes.2] = body.take 2 ∧ ofFault n.fault n.data = n)
      ∧ (ofBody (ofFault f data).body = .ok (ofFault f data)
        ∧ (ofFault f data).fault.codes = f.codes
        ∧ ((ofFault f data).fault = f ↔ ¬f.HidesAssigned))
      ∧ (body.length < 2 → ofBody body = .error (.notEnough 2 body.length)) := by
  refine ⟨?_, ⟨ofBody_body _, Fault.codes_ofCodes _ _, Fault.ofCodes_codes_iff f⟩, ofBody_of_short⟩
  intro hlong
  obtain ⟨n, rfl⟩ := exists_body hlong
  have hcodes : n.fault.codes = (n.code, n.subcode) := Fault.codes_ofCodes _ _
  refine ⟨n, n.ofBody_body, rfl, ?_, ?_⟩
  · rw [hcodes]
    rfl
  · rw [ofFault, hcodes]

/-- a deprecated subcode, and an OPEN fault that is unknown by the number of an assigned one -/
theorem faults_kept_deprecated :
    (∃ n, ofBody [2, 5, 253] = .ok n ∧ n.body = [2, 5, 253])
      ∧ (ofFault (.openMessage (.unknown 5)) []).fault = .openMessage (.unknown 5)
      ∧ (ofFault (.openMessage (.unknown 6)) []).fault ≠ .openMessage (.unknown 6)
      ∧ ofBody [2] = .error (.notEnough 2 1) := by
  obtain ⟨hread, ⟨-, -, hkept⟩, -⟩ := faults_kept [2, 5, 253] (.openMessage (.unknown 5)) []
  obtain ⟨-, ⟨-, -, hhidden⟩, hshort⟩ := faults_kept [2] (.openMessage (.unknown 6)) []
  obtain ⟨n, hn, hbody, -, -⟩ := hread (by decide)
  refine ⟨⟨n, hn, hbody⟩, hkept.mpr ?_, ?_, hshort (by decide)⟩
  · rintro ⟨n, hn, hmem⟩
    obtain rfl := OpenFault.unknown.inj hn
    revert hmem
    decide
  · intro hsame
    exact hhidden.mp hsame ⟨6, rfl, by decide⟩

end Notification

end RouteHealth
