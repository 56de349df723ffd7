/-!
# Registries of code points

The protocol assigns meanings to small numbers.  A registry lists the assigned members of one such
space, each with its code and its registered name.  In a closed registry a number without a member
is an error; in an open registry it is kept as an unknown member.
-/

namespace RouteHealth

/-- the assigned members of one space of numbers -/
class Registry (α : Type) where
  members : List α
  code : α → Nat
  name : α → String

namespace Registry

variable {α : Type} [Registry α]

def ofCode? (n : Nat) : Option α :=
  members.find? fun a => code a == n

def ofName? (s : String) : Option α :=
  members.find? fun a => name a == s

theorem code_of_ofCode? {n : Nat} {a : α} (h : ofCode? n = some a) : code a = n := by
  simpa using List.find?_some h

end Registry

/-- the spaces in which a number without a member is an error -/
inductive CodeSpace where
  | afi
  | safi
  | messageType
  | attributeKind
  | origin
  deriving DecidableEq

def CodeSpace.name : CodeSpace → String
  | afi => "Afi"
  | safi => "Safi"
  | messageType => "BgpMessageType"
  | attributeKind => "AttrType"
  | origin => "Origin"

/-- a registry in which a number without a member is an error -/
class ClosedRegistry (α : Type) extends Registry α where
  space : CodeSpace

/-- a registry of one-octet codes that keeps a code without an assigned member -/
class OpenRegistry (α : Type) extends Registry α where
  unknown : UInt8 → α

namespace OpenRegistry

variable {α : Type} [OpenRegistry α]

/-- the assigned member with a given code, or else the unknown one -/
def ofCode (n : UInt8) : α :=
  (Registry.ofCode? n.toNat).getD (unknown n)

def octet (a : α) : UInt8 := UInt8.ofNat (Registry.code a)

end OpenRegistry

end RouteHealth
