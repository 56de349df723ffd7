import RouteHealth.Attribute.Encode
import RouteHealth.Nlri

/-!
# Reading path attributes

A run of attributes is read in two steps.  `Attribute.readAll?` takes it apart by the flags, types and
lengths; `Value.ofEncoded?` says what the value of each known attribute means.  The reader has the
numbers of the wire format from the standard and none from the tables of the writer.
-/

namespace RouteHealth.Attribute

/-- an attribute as it stands on the wire -/
structure Encoded where
  flags : Flags
  type : UInt8
  value : Bytes
  deriving DecidableEq

/-- the attributes in an octet string, if it is nothing but attributes -/
def readAll? : Bytes → Option (List Encoded)
  | [] => some []
  | bits :: type :: rest =>
    let width := if bits &&& 0x10 = 0x10 then 2 else 1
    let length := Bytes.toNat (rest.take width)
    let value := (rest.drop width).take length
    if (rest.take width).length = width ∧ value.length = length then
      (readAll? ((rest.drop width).drop length)).map (⟨⟨bits⟩, type, value⟩ :: ·)
    else none
  | [_] => none
  termination_by bs => bs.length
  decreasing_by simp only [List.length_cons, List.length_drop]; omega

/-- what an attribute says -/
inductive Value where
  | origin (o : Origin)
  | asPath (segments : List (UInt8 × List UInt16))
  | nextHop (a : IPv4)
  | multiExitDiscriminator (med : UInt32)
  | localPreference (pref : UInt32)
  | communities (cs : List Community)
  | mpReachable (hop : NextHop6) (routes : List Address)
  | mpUnreachable (routes : List Address)
  deriving DecidableEq

def words16? : Bytes → Option (List UInt16)
  | [] => some []
  | a :: b :: rest => (words16? rest).map (UInt16.ofNat (Bytes.toNat [a, b]) :: ·)
  | [_] => none

def words32? : Bytes → Option (List UInt32)
  | [] => some []
  | a :: b :: c :: d :: rest =>
    (words32? rest).map (UInt32.ofNat (Bytes.toNat [a, b, c, d]) :: ·)
  | _ => none

/-- the segments in an octet string: a type, a count and as many AS numbers -/
def segments? : Bytes → Option (List (UInt8 × List UInt16))
  | [] => some []
  | type :: count :: rest =>
    let numbers := rest.take (2 * count.toNat)
    if numbers.length = 2 * count.toNat then do
      let asns ← words16? numbers
      let segments ← segments? (rest.drop (2 * count.toNat))
      return (type, asns) :: segments
    else none
  | [_] => none
  termination_by bs => bs.length
  decreasing_by simp only [List.length_cons, List.length_drop]; omega

def nextHop6? (bs : Bytes) : Option NextHop6 :=
  match Address.ofOctets? .ipv6 (bs.take 16), Address.ofOctets? .ipv6 (bs.drop 16) with
  | some (.v6 a), some (.v6 l) => some (.globalAndLinkLocal a l)
  | some (.v6 a), _ => if bs.length = 16 then some (.global a) else none
  | _, _ => none

def reachable? (bs : Bytes) : Option Value :=
  match bs with
  | 0 :: 2 :: 1 :: length :: rest =>
    match rest.drop length.toNat with
    | 0 :: nlri => do
      let hop ← nextHop6? (rest.take length.toNat)
      let routes ← Nlri.read? .ipv6 nlri
      return .mpReachable hop routes
    | _ => none
  | _ => none

def unreachable? (bs : Bytes) : Option Value :=
  match bs with
  | 0 :: 2 :: 1 :: nlri => (Nlri.read? .ipv6 nlri).map .mpUnreachable
  | _ => none

def Value.ofOctets? (kind : Kind) (bs : Bytes) : Option Value :=
  match kind with
  | .origin =>
    match bs with
    | [0] => some (.origin .igp)
    | [1] => some (.origin .egp)
    | [2] => some (.origin .incomplete)
    | _ => none
  | .asPath => (segments? bs).map .asPath
  | .nextHop => if h : bs.length = 4 then some (.nextHop ⟨bs, h⟩) else none
  | .multiExitDiscriminator =>
    if bs.length = 4 then some (.multiExitDiscriminator (UInt32.ofNat (Bytes.toNat bs))) else none
  | .localPreference =>
    if bs.length = 4 then some (.localPreference (UInt32.ofNat (Bytes.toNat bs))) else none
  | .communities => (words32? bs).map fun ws => .communities (ws.map Community.mk)
  | .mpReachable => reachable? bs
  | .mpUnreachable => unreachable? bs

/-- the kind that a type stands for, and its flags: `0x40` for one that is passed on, `0x80` for one that a
speaker need not know -/
def Kind.ofType? : Nat → Option (Kind × UInt8)
  | 1 => some (.origin, 0x40)
  | 2 => some (.asPath, 0x40)
  | 3 => some (.nextHop, 0x40)
  | 4 => some (.multiExitDiscriminator, 0x80)
  | 5 => some (.localPreference, 0x40)
  | 8 => some (.communities, 0xC0)
  | 14 => some (.mpReachable, 0x80)
  | 15 => some (.mpUnreachable, 0x80)
  | _ => none

/-- what an attribute says; its flags are those of its kind, and the bit for a wide length exactly if its
value has more than 255 octets -/
def Value.ofEncoded? (e : Encoded) : Option Value := do
  let (kind, flags) ← Kind.ofType? e.type.toNat
  if e.flags.bits = flags ||| (if 255 < e.value.length then 0x10 else 0) then
    Value.ofOctets? kind e.value
  else none

end RouteHealth.Attribute
