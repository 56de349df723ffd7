import RouteHealth.Event

/-!
# Faults

Why a session ends: an error code and a subcode whose meaning depends on the code.  A code or
subcode without an assigned meaning is kept as a number.
-/

namespace RouteHealth

/-- what is wrong with the header of a message -/
inductive HeaderFault where
  | unspecific
  | connectionNotSynchronized
  | badMessageLength
  | badMessageType
  | unknown (code : UInt8)
  deriving DecidableEq

/-- what is wrong with an OPEN -/
inductive OpenFault where
  | unspecific
  | unsupportedVersionNumber
  | badPeerAs
  | badBgpIdentifier
  | unsupportedOptionalParameter
  | unacceptableHoldTime
  | unsupportedCapability
  | roleMismatch
  | unknown (code : UInt8)
  deriving DecidableEq

/-- what is wrong with an UPDATE -/
inductive UpdateFault where
  | unspecific
  | malformedAttributeList
  | unrecognizedWellKnownAttribute
  | missingWellKnownAttribute
  | attributeFlagsError
  | attributeLengthError
  | invalidOriginError
  | invalidNextHopAttribute
  | optionalAttributeError
  | invalidNetworkField
  | malformedAsPath
  | unknown (code : UInt8)
  deriving DecidableEq

/-- which state of a session a message does not belong in -/
inductive StateFault where
  | unspecified
  | unexpectedInOpenSent
  | unexpectedInOpenConfirm
  | unexpectedInEstablished
  | unknown (code : UInt8)
  deriving DecidableEq

/-- why a speaker ends a session of its own accord -/
inductive CeaseReason where
  | reserved
  | maximumNumberOfPrefixesReached
  | administrativeShutdown
  | peerDeConfigured
  | administrativeReset
  | connectionRejected
  | otherConfigurationChange
  | connectionCollisionResolution
  | outOfResources
  | hardReset
  | unknown (code : UInt8)
  deriving DecidableEq

instance : OpenRegistry HeaderFault where
  members := [.unspecific, .connectionNotSynchronized, .badMessageLength, .badMessageType]
  code
    | .unspecific => 0
    | .connectionNotSynchronized => 1
    | .badMessageLength => 2
    | .badMessageType => 3
    | .unknown code => code.toNat
  name
    | .unspecific => "UNSPECIFIC"
    | .connectionNotSynchronized => "CONNECTION_NOT_SYNCHRONIZED"
    | .badMessageLength => "BAD_MESSAGE_LENGTH"
    | .badMessageType => "BAD_MESSAGE_TYPE"
    | .unknown _ => "Unknown"
  unknown := .unknown

instance : OpenRegistry OpenFault where
  members := [.unspecific, .unsupportedVersionNumber, .badPeerAs, .badBgpIdentifier,
    .unsupportedOptionalParameter, .unacceptableHoldTime, .unsupportedCapability, .roleMismatch]
  code
    | .unspecific => 0
    | .unsupportedVersionNumber => 1
    | .badPeerAs => 2
    | .badBgpIdentifier => 3
    | .unsupportedOptionalParameter => 4
    | .unacceptableHoldTime => 6
    | .unsupportedCapability => 7
    | .roleMismatch => 11
    | .unknown code => code.toNat
  name
    | .unspecific => "UNSPECIFIC"
    | .unsupportedVersionNumber => "UNSUPPORTED_VERSION_NUMBER"
    | .badPeerAs => "BAD_PEER_AS"
    | .badBgpIdentifier => "BAD_BGP_IDENTIFIER"
    | .unsupportedOptionalParameter => "UNSUPPORTED_OPTIONAL_PARAMETER"
    | .unacceptableHoldTime => "UNACCEPTABLE_HOLD_TIME"
    | .unsupportedCapability => "UNSUPPORTED_CAPABILITY"
    | .roleMismatch => "ROLE_MISMATCH"
    | .unknown _ => "Unknown"
  unknown := .unknown

instance : OpenRegistry UpdateFault where
  members := [.unspecific, .malformedAttributeList, .unrecognizedWellKnownAttribute,
    .missingWellKnownAttribute, .attributeFlagsError, .attributeLengthError, .invalidOriginError,
    .invalidNextHopAttribute, .optionalAttributeError, .invalidNetworkField, .malformedAsPath]
  code
    | .unspecific => 0
    | .malformedAttributeList => 1
    | .unrecognizedWellKnownAttribute => 2
    | .missingWellKnownAttribute => 3
    | .attributeFlagsError => 4
    | .attributeLengthError => 5
    | .invalidOriginError => 6
    | .invalidNextHopAttribute => 8
    | .optionalAttributeError => 9
    | .invalidNetworkField => 10
    | .malformedAsPath => 11
    | .unknown code => code.toNat
  name
    | .unspecific => "UNSPECIFIC"
    | .malformedAttributeList => "MALFORMED_ATTRIBUTE_LIST"
    | .unrecognizedWellKnownAttribute => "UNRECOGNIZED_WELL_KNOWN_ATTRIBUTE"
    | .missingWellKnownAttribute => "MISSING_WELL_KNOWN_ATTRIBUTE"
    | .attributeFlagsError => "ATTRIBUTE_FLAGS_ERROR"
    | .attributeLengthError => "ATTRIBUTE_LENGTH_ERROR"
    | .invalidOriginError => "INVALID_ORIGIN_ERROR"
    | .invalidNextHopAttribute => "INVALID_NEXT_HOP_ATTRIBUTE"
    | .optionalAttributeError => "OPTIONAL_ATTRIBUTE_ERROR"
    | .invalidNetworkField => "INVALID_NETWORK_FIELD"
    | .malformedAsPath => "MALFORMED_AS_PATH"
    | .unknown _ => "Unknown"
  unknown := .unknown

instance : OpenRegistry StateFault where
  members := [.unspecified, .unexpectedInOpenSent, .unexpectedInOpenConfirm,
    .unexpectedInEstablished]
  code
    | .unspecified => 0
    | .unexpectedInOpenSent => 1
    | .unexpectedInOpenConfirm => 2
    | .unexpectedInEstablished => 3
    | .unknown code => code.toNat
  name
    | .unspecified => "UNSPECIFIED"
    | .unexpectedInOpenSent => "UNEXPECTED_MESSAGE_IN_OPENSENT_STATE"
    | .unexpectedInOpenConfirm => "UNEXPECTED_MESSAGE_IN_OPENCONFIRM_STATE"
    | .unexpectedInEstablished => "UNEXPECTED_MESSAGE_IN_ESTABLISHED_STATE"
    | .unknown _ => "Unknown"
  unknown := .unknown

instance : OpenRegistry CeaseReason where
  members := [.reserved, .maximumNumberOfPrefixesReached, .administrativeShutdown,
    .peerDeConfigured, .administrativeReset, .connectionRejected, .otherConfigurationChange,
    .connectionCollisionResolution, .outOfResources, .hardReset]
  code
    | .reserved => 0
    | .maximumNumberOfPrefixesReached => 1
    | .administrativeShutdown => 2
    | .peerDeConfigured => 3
    | .administrativeReset => 4
    | .connectionRejected => 5
    | .otherConfigurationChange => 6
    | .connectionCollisionResolution => 7
    | .outOfResources => 8
    | .hardReset => 9
    | .unknown code => code.toNat
  name
    | .reserved => "RESERVED"
    | .maximumNumberOfPrefixesReached => "MAXIMUM_NUMBER_OF_PREFIXES_REACHED"
    | .administrativeShutdown => "ADMINISTRATIVE_SHUTDOWN"
    | .peerDeConfigured => "PEER_DE_CONFIGURED"
    | .administrativeReset => "ADMINISTRATIVE_RESET"
    | .connectionRejected => "CONNECTION_REJECTED"
    | .otherConfigurationChange => "OTHER_CONFIGURATION_CHANGE"
    | .connectionCollisionResolution => "CONNECTION_COLLISION_RESOLUTION"
    | .outOfResources => "OUT_OF_RESOURCES"
    | .hardReset => "HARD_RESET"
    | .unknown _ => "Unknown"
  unknown := .unknown

/-- why a session ends -/
inductive Fault where
  /-- no subcode is assigned -/
  | reserved (subcode : UInt8)
  | header (fault : HeaderFault)
  | openMessage (fault : OpenFault)
  | updateMessage (fault : UpdateFault)
  /-- no subcode is assigned -/
  | holdTimerExpired (subcode : UInt8)
  | stateMachine (fault : StateFault)
  | cease (reason : CeaseReason)
  | unknown (code subcode : UInt8)
  deriving DecidableEq

namespace Fault

def ofCodes (code subcode : UInt8) : Fault :=
  match code.toNat with
  | 0 => reserved subcode
  | 1 => header (OpenRegistry.ofCode subcode)
  | 2 => openMessage (OpenRegistry.ofCode subcode)
  | 3 => updateMessage (OpenRegistry.ofCode subcode)
  | 4 => holdTimerExpired subcode
  | 5 => stateMachine (OpenRegistry.ofCode subcode)
  | 6 => cease (OpenRegistry.ofCode subcode)
  | _ => unknown code subcode

def codes : Fault → UInt8 × UInt8
  | reserved subcode => (0, subcode)
  | header fault => (1, OpenRegistry.octet fault)
  | openMessage fault => (2, OpenRegistry.octet fault)
  | updateMessage fault => (3, OpenRegistry.octet fault)
  | holdTimerExpired subcode => (4, subcode)
  | stateMachine fault => (5, OpenRegistry.octet fault)
  | cease reason => (6, OpenRegistry.octet reason)
  | unknown code subcode => (code, subcode)

def events (code subcode : UInt8) : List Event :=
  if 6 < code.toNat then [.unknownFault code subcode] else []

end Fault

end RouteHealth
