import RouteHealth.Bytes

/-!
# Communities

A community is a 32-bit tag on a route.  By convention its high half is an AS number and its low
half a value that the AS defines.
-/

namespace RouteHealth

/-- a route tag -/
structure Community where
  raw : UInt32
  deriving DecidableEq

namespace Community

def ofParts (asn value : UInt16) : Community :=
  ⟨UInt32.ofNat (65536 * asn.toNat + value.toNat)⟩

/-- the AS number in the high half -/
def asn (c : Community) : UInt16 := UInt16.ofNat (c.raw.toNat / 65536)

/-- the value in the low half -/
def value (c : Community) : UInt16 := UInt16.ofNat (c.raw.toNat % 65536)

/-- routes with this tag stay inside the confederation -/
def noExport : Community := ⟨0xFFFFFF01⟩

/-- routes with this tag are not passed on at all -/
def noAdvertise : Community := ⟨0xFFFFFF02⟩

/-- routes with this tag stay inside the AS -/
def noExportSubconfed : Community := ⟨0xFFFFFF03⟩

def octets (c : Community) : Bytes := Bytes.ofWord32 c.raw

end Community

end RouteHealth
