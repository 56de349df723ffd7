import RouteHealth.Item

/-!
# Capabilities

A speaker tells its peer what it can do by a list of capabilities.  The one that is interpreted here
is the offer to carry routes of an address family.
-/

namespace RouteHealth

/-- what a capability is about -/
inductive CapabilityKind where
  | multiprotocol
  | routeRefresh
  | extendedNextHop
  | extendedMessage
  | gracefulRestart
  | fourOctetAsNumber
  | addPath
  | enhancedRouteRefresh
  | unknown (code : UInt8)
  deriving DecidableEq

instance : OpenRegistry CapabilityKind where
  members := [.multiprotocol, .routeRefresh, .extendedNextHop, .extendedMessage, .gracefulRestart,
    .fourOctetAsNumber, .addPath, .enhancedRouteRefresh]
  code
    | .multiprotocol => 1
    | .routeRefresh => 2
    | .extendedNextHop => 5
    | .extendedMessage => 6
    | .gracefulRestart => 64
    | .fourOctetAsNumber => 65
    | .addPath => 69
    | .enhancedRouteRefresh => 70
    | .unknown code => code.toNat
  name
    | .multiprotocol => "MULTIPROTOCOL_EXTENSIONS_FOR_BGP_4"
    | .routeRefresh => "ROUTE_REFRESH_CAPABILITY_FOR_BGP_4"
    | .extendedNextHop => "EXTENDED_NEXT_HOP_ENCODING"
    | .extendedMessage => "BGP_EXTENDED_MESSAGE"
    | .gracefulRestart => "GRACEFUL_RESTART_CAPABILITY"
    | .fourOctetAsNumber => "SUPPORT_FOR_4_OCTET_AS_NUMBER_CAPABILITY"
    | .addPath => "ADD_PATH_CAPABILITY"
    | .enhancedRouteRefresh => "ENHANCED_ROUTE_REFRESH_CAPABILITY"
    | .unknown _ => "Unknown"
  unknown := .unknown

/-- the offer to carry routes of a family -/
structure Multiprotocol where
  family : Afi
  subsequent : Safi
  deriving DecidableEq

/-- a capability with its value -/
structure Capability where
  kind : CapabilityKind
  value : Bytes
  deriving DecidableEq

/-- the type of the optional parameter that carries capabilities -/
def capabilitiesParameter : UInt8 := 2

namespace Multiprotocol

def ipv4Unicast : Multiprotocol := ⟨.ipv4, .unicast⟩

def ipv6Unicast : Multiprotocol := ⟨.ipv6, .unicast⟩

/-- reads a family, a reserved octet and a subsequent family -/
def reader : Reader Multiprotocol := do
  let family ← Reader.afi
  let _ ← Reader.octet
  let subsequent ← Reader.safi
  return ⟨family, subsequent⟩

def ofOctets (bs : Bytes) : Except ReadError Multiprotocol := (reader.runOn bs).1

def octets (m : Multiprotocol) : Bytes :=
  Bytes.ofNat 2 (Registry.code m.family) ++ [0, UInt8.ofNat (Registry.code m.subsequent)]

def item (m : Multiprotocol) : Item :=
  ⟨OpenRegistry.octet CapabilityKind.multiprotocol, m.octets⟩

def parameter (m : Multiprotocol) : Item := ⟨capabilitiesParameter, m.item.octets⟩

end Multiprotocol

namespace Capability

def ofItem (i : Item) : Capability := ⟨OpenRegistry.ofCode i.code, i.value⟩

/-- the families that a capability offers, if it is such an offer and its value can be read -/
def multiprotocol? (c : Capability) : Option Multiprotocol :=
  match c.kind with
  | .multiprotocol => (Multiprotocol.ofOctets c.value).toOption
  | _ => none

/-- the capabilities in an optional parameter, none if it is of another type -/
def ofParameter (parameter : Item) : Except ReadError (List Capability) :=
  if parameter.code = capabilitiesParameter then
    match Item.readAll parameter.value with
    | (items, none) => .ok (items.map ofItem)
    | (_, some e) => .error e
  else .ok []

/-- the capabilities in a block of optional parameters; the first thing wrong with the block counts -/
def ofParameters (block : Bytes) : Except ReadError (List Capability) := do
  let (parameters, failure) := Item.readAll block
  let capabilities ← parameters.mapM ofParameter
  match failure with
  | none => return capabilities.flatten
  | some e => throw e

/-- the types of the parameters that are passed over until the block ends or is found wrong -/
def passedOver (block : Bytes) : List UInt8 :=
  (((Item.readAll block).1.takeWhile fun p => (ofParameter p).isOk).filter
    (·.code ≠ capabilitiesParameter)).map (·.code)

end Capability

end RouteHealth
