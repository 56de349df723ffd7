import RouteHealth.Bytes
import RouteHealth.Registry

/-!
# Path attributes: flags and types

A path attribute starts with an octet of flags and an octet for its type.  One flag bit says that
the length of the value takes two octets and not one.
-/

namespace RouteHealth.Attribute

/-- the flag octet of an attribute; bits without a meaning are kept -/
structure Flags where
  bits : UInt8
  deriving DecidableEq

namespace Flags

/-- the bit of an attribute that a speaker need not know -/
def optionalBit : UInt8 := 0x80

/-- the bit of an attribute that is passed on to other peers -/
def transitiveBit : UInt8 := 0x40

/-- the bit of an attribute that some speaker on the path did not know -/
def partialBit : UInt8 := 0x20

/-- the bit of an attribute whose length takes two octets -/
def extendedBit : UInt8 := 0x10

def has (f : Flags) (mask : UInt8) : Bool := f.bits &&& mask == mask

def isExtended (f : Flags) : Bool := f.has extendedBit

/-- the flags with the length bit made to fit a value of `n` octets -/
def forLength (f : Flags) (n : Nat) : Flags :=
  if 255 < n then ⟨f.bits ||| extendedBit⟩ else ⟨f.bits &&& ~~~extendedBit⟩

def wellKnown : Flags := ⟨transitiveBit⟩

/-- the flags of an optional attribute that is passed on -/
def optionalTransitive : Flags := ⟨optionalBit ||| transitiveBit⟩

/-- the flags of an optional attribute that is not passed on -/
def optionalLocal : Flags := ⟨optionalBit⟩

end Flags

/-- the attributes that an announcement can carry -/
inductive Kind where
  | origin
  | asPath
  | nextHop
  | multiExitDiscriminator
  | localPreference
  | communities
  | mpReachable
  | mpUnreachable
  deriving DecidableEq

instance : ClosedRegistry Kind where
  space := .attributeKind
  members := [.origin, .asPath, .nextHop, .multiExitDiscriminator, .localPreference, .communities,
    .mpReachable, .mpUnreachable]
  code
    | .origin => 1
    | .asPath => 2
    | .nextHop => 3
    | .multiExitDiscriminator => 4
    | .localPreference => 5
    | .communities => 8
    | .mpReachable => 14
    | .mpUnreachable => 15
  name
    | .origin => "ORIGIN"
    | .asPath => "AS_PATH"
    | .nextHop => "NEXT_HOP"
    | .multiExitDiscriminator => "MULTI_EXIT_DISCRIMINATOR"
    | .localPreference => "LOCAL_PREFERENCE"
    | .communities => "COMMUNITIES"
    | .mpReachable => "MP_REACHABLE_NLRI"
    | .mpUnreachable => "MP_UNREACHABLE_NLRI"

def Kind.defaultFlags : Kind → Flags
  | .origin | .asPath | .nextHop | .localPreference => .wellKnown
  | .communities => .optionalTransitive
  | .multiExitDiscriminator | .mpReachable | .mpUnreachable => .optionalLocal

/-- how a route came to be known -/
inductive Origin where
  | igp
  | egp
  | incomplete
  deriving DecidableEq

instance : ClosedRegistry Origin where
  space := .origin
  members := [.igp, .egp, .incomplete]
  code
    | .igp => 0
    | .egp => 1
    | .incomplete => 2
  name
    | .igp => "IGP"
    | .egp => "EGP"
    | .incomplete => "INCOMPLETE"

/-- flags, type and length; the flags decide whether the length takes one or two octets -/
def header (flags : Flags) (kind : Kind) (length : UInt16) : Bytes :=
  flags.bits :: UInt8.ofNat (Registry.code kind) ::
    if flags.isExtended then Bytes.ofWord16 length else [length.toUInt8]

end RouteHealth.Attribute
