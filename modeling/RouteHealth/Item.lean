import RouteHealth.Reading

/-!
# Runs of items

Optional parameters, and the capabilities inside them, are runs of items: an octet for the code, an
octet for the length, and as many octets of value.  `Item.readAll` reads as many whole items as there
are, and says what is wrong with the rest if there is one.
-/

namespace RouteHealth

/-- a code with a value of at most 255 octets -/
structure Item where
  code : UInt8
  value : Bytes
  deriving DecidableEq

namespace Item

def octets (i : Item) : Bytes := i.code :: UInt8.ofNat i.value.length :: i.value

/-- the items at the front of an octet string, and why the rest of it is not an item -/
def readAll : Bytes → List Item × Option ReadError
  | [] => ([], none)
  | [_] => ([], some (.notEnough 1 0))
  | code :: length :: rest =>
    let value := rest.take length.toNat
    if value.length < length.toNat then ([], some (.notEnough length.toNat rest.length))
    else
      let (items, failure) := readAll (rest.drop length.toNat)
      (⟨code, value⟩ :: items, failure)
  termination_by bs => bs.length
  decreasing_by simp only [List.length_cons, List.length_drop]; omega

end Item

end RouteHealth
