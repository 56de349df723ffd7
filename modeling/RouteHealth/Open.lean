import RouteHealth.Capability
import RouteHealth.Event
import RouteHealth.Policy

/-!
# OPEN bodies

An OPEN starts a session.  Its optional parameters are kept as they were received and written back
as such; where there are none to write back they are made from the `multiprotocol` flag.  A block of
parameters that cannot be read never fails the message: it only offers nothing.
-/

namespace RouteHealth

/-- an OPEN message -/
structure Open where
  /-- the protocol version received; the one written is always 4 -/
  version : UInt8
  asn : UInt16
  holdTime : UInt16
  routerId : IPv4
  multiprotocol : Bool
  parameters : Bytes
  deriving DecidableEq

namespace Open

def protocolVersion : UInt8 := 4

/-- the number of octets before the optional parameters -/
def fixedLength : Nat := 10

def ofSpeaker (asn holdTime : UInt16) (routerId : IPv4) (multiprotocol : Bool) : Open :=
  { version := protocolVersion, asn, holdTime, routerId, multiprotocol, parameters := [] }

def capabilities (m : Open) : Except ReadError (List Capability) :=
  Capability.ofParameters m.parameters

/-- whether a block of parameters can be read and offers IPv6 unicast -/
def offersIPv6 (block : Bytes) : Bool :=
  match Capability.ofParameters block with
  | .ok capabilities => capabilities.any (·.multiprotocol? = some .ipv6Unicast)
  | .error _ => false

/-- reads an OPEN; its parameters are all that follows the fixed part, whatever length it declares -/
def reader : Reader Open := do
  Reader.require fixedLength
  let version ← Reader.octet
  let asn ← Reader.word16
  let holdTime ← Reader.word16
  let routerId ← Reader.ipv4
  let _ ← Reader.octet
  let parameters ← Reader.rest
  return { version, asn, holdTime, routerId, multiprotocol := offersIPv6 parameters, parameters }

def ofBody (body : Bytes) : Except ReadError Open := (reader.runOn body).1

/-- the parameters that are written: the received ones if there are any and their length fits one
octet, and otherwise the offers of IPv6 and IPv4 unicast if the flag is set -/
def writtenParameters (m : Open) : Bytes :=
  if m.parameters ≠ [] ∧ m.parameters.length ≤ 255 then m.parameters
  else if m.multiprotocol then
    Multiprotocol.ipv6Unicast.parameter.octets ++ Multiprotocol.ipv4Unicast.parameter.octets
  else []

def body (m : Open) : Bytes :=
  protocolVersion :: Bytes.ofWord16 m.asn ++ Bytes.ofWord16 m.holdTime ++ m.routerId.octets ++
    UInt8.ofNat m.writtenParameters.length :: m.writtenParameters

/-! ## Events -/

def parameterEvents (block : Bytes) : List Event :=
  (Capability.passedOver block).map .parameterSkipped

def bodyEvents (body : Bytes) : List Event :=
  match body.drop (fixedLength - 1) with
  | [] => []
  | declared :: block =>
    (if block.length = declared.toNat then []
      else [.parametersLength declared.toNat block.length]) ++
    parameterEvents block ++
    (match Capability.ofParameters block with
      | .ok _ => []
      | .error e => [.parametersMalformed e])

end Open

namespace Policy

def openMessage (p : Policy) (holdTime : UInt16) (routerId : IPv4) : Open :=
  Open.ofSpeaker p.asn holdTime routerId p.multiprotocol

end Policy

end RouteHealth
