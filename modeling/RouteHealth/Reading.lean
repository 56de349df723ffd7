import RouteHealth.Address
import RouteHealth.Decimal

/-!
# Reading octets that a peer sent

A `Reader` takes octets from the front of what is still unread.  It asks for all the octets of a
field before it takes any: a field that is not there in full fails and leaves everything unread,
while a field that is there but has no meaning fails after it was taken.
-/

namespace RouteHealth

/-- why octets cannot be read -/
inductive ReadError where
  /-- a field reaches past the end of the octets -/
  | notEnough (needed remaining : Nat)
  /-- a number has no assigned meaning -/
  | unrecognized (space : CodeSpace) (value : Nat)
  deriving DecidableEq

def ReadError.message : ReadError → String
  | notEnough needed remaining =>
    "not enough bytes to read: needed " ++ Decimal.text needed ++ ", " ++ Decimal.text remaining ++
      " remaining"
  | unrecognized space value =>
    "unrecognized value " ++ Decimal.text value ++ " for " ++ space.name

/-- a read from the front of the unread octets, which are kept when it fails -/
abbrev Reader (α : Type) := ExceptT ReadError (StateM Bytes) α

def recognize {α : Type} [ClosedRegistry α] (n : Nat) : Except ReadError α :=
  match Registry.ofCode? n with
  | some a => .ok a
  | none => .error (.unrecognized (ClosedRegistry.space α) n)

namespace Reader

/-- the outcome of a read, and what is unread after it -/
def runOn {α : Type} (r : Reader α) (bs : Bytes) : Except ReadError α × Bytes :=
  (ExceptT.run r).run bs

/-- fails unless at least `n` octets are unread -/
def require (n : Nat) : Reader Unit := do
  let bs ← get
  if bs.length < n then throw (.notEnough n bs.length)

/-- the next `n` octets -/
def octets (n : Nat) : Reader Bytes := do
  require n
  let bs ← get
  set (bs.drop n)
  return bs.take n

/-- the number in the next `n` octets -/
def number (n : Nat) : Reader Nat := do
  return Bytes.toNat (← octets n)

def octet : Reader UInt8 := do
  return UInt8.ofNat (← number 1)

def word16 : Reader UInt16 := do
  return UInt16.ofNat (← number 2)

def word32 : Reader UInt32 := do
  return UInt32.ofNat (← number 4)

def ipv4 : Reader IPv4 := do
  return IPv4.ofNat (← number 4)

/-- the registered meaning of the number in the next `n` octets -/
def member {α : Type} [ClosedRegistry α] (n : Nat) : Reader α := do
  ofExcept (recognize (← number n))

def afi : Reader Afi := member 2

def safi : Reader Safi := member 1

def rest : Reader Bytes := do
  let bs ← get
  set ([] : Bytes)
  return bs

end Reader

end RouteHealth
