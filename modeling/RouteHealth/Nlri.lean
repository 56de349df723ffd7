import RouteHealth.Address

/-!
# Streams of host routes

A host route is written as one octet for its length in bits, 32 or 128, and the octets of its
address.  A stream is a run of such records, all of one family.
-/

namespace RouteHealth.Nlri

def record (a : Address) : Bytes := a.family.hostLength :: a.octets

/-- the records of the addresses of one family, in the order given -/
def stream (family : Afi) (as : List Address) : Bytes :=
  (as.filter (·.family = family)).flatMap record

/-- the bits of an address, and so of a host route, as the reader knows them -/
def addressBits : Afi → Nat
  | .ipv4 => 32
  | .ipv6 => 128

/-- the addresses in a stream of records of one family, if it is nothing but such records; the length
says how many octets of address follow -/
def read? (family : Afi) : Bytes → Option (List Address)
  | [] => some []
  | length :: rest =>
    if length.toNat = addressBits family then do
      let a ← Address.ofOctets? family (rest.take (length.toNat / 8))
      let as ← read? family (rest.drop (length.toNat / 8))
      return a :: as
    else none
  termination_by bs => bs.length
  decreasing_by simp only [List.length_cons, List.length_drop]; omega

end RouteHealth.Nlri
