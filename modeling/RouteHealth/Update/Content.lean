import RouteHealth.Attribute.Decode
import RouteHealth.RouteSet

/-!
# What an UPDATE says

The reader for the bodies that `Policy.render` writes.  It takes a body apart into its withdrawn
routes, its attributes and its advertised routes, and leaves nothing over.
-/

namespace RouteHealth

/-- what an UPDATE body says -/
structure Content where
  withdrawn : List Address
  attributes : List Attribute.Value
  advertised : List Address
  deriving DecidableEq

namespace Content

/-- the octets counted by a two-octet length, and what follows them -/
def counted? : Bytes → Option (Bytes × Bytes)
  | a :: b :: rest =>
    let length := Bytes.toNat [a, b]
    if length ≤ rest.length then some (rest.take length, rest.drop length) else none
  | _ => none

def ofBody? (body : Bytes) : Option Content := do
  let (withdrawn, rest) ← counted? body
  let (attributes, nlri) ← counted? rest
  let withdrawn ← Nlri.read? .ipv4 withdrawn
  let encoded ← Attribute.readAll? attributes
  let attributes ← encoded.mapM Attribute.Value.ofEncoded?
  let advertised ← Nlri.read? .ipv4 nlri
  return { withdrawn, attributes, advertised }

/-- the routes that an attribute advertises or withdraws -/
def attributeRoutes : Attribute.Value → List Route
  | .mpReachable _ routes => routes.map fun a => (a, true)
  | .mpUnreachable routes => routes.map fun a => (a, false)
  | _ => []

/-- all the routes in a body, in the order in which they stand there -/
def routes (c : Content) : List Route :=
  c.withdrawn.map (fun a => (a, false)) ++ c.attributes.flatMap attributeRoutes ++
    c.advertised.map (fun a => (a, true))

end Content

end RouteHealth
