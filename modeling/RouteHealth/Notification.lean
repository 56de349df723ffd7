import RouteHealth.Notification.Fault

/-!
# NOTIFICATION bodies

A NOTIFICATION ends a session: two octets for the fault and any octets of diagnostic data.
-/

namespace RouteHealth

/-- a NOTIFICATION message -/
structure Notification where
  code : UInt8
  subcode : UInt8
  data : Bytes
  deriving DecidableEq

namespace Notification

def fixedLength : Nat := 2

def ofFault (fault : Fault) (data : Bytes) : Notification :=
  ⟨fault.codes.1, fault.codes.2, data⟩

def fault (n : Notification) : Fault := .ofCodes n.code n.subcode

def reader : Reader Notification := do
  Reader.require fixedLength
  let code ← Reader.octet
  let subcode ← Reader.octet
  let data ← Reader.rest
  return ⟨code, subcode, data⟩

def ofBody (body : Bytes) : Except ReadError Notification := (reader.runOn body).1

def body (n : Notification) : Bytes := n.code :: n.subcode :: n.data

end Notification

end RouteHealth
