import RouteHealth.Bytes
import RouteHealth.Family

/-!
# Addresses

An address is its octets in network order.  All IPv4 addresses come before all IPv6 addresses, and
within a family addresses are ordered by their octets from the most significant one.  An
IPv4-mapped IPv6 address is an IPv6 address and nothing else.  The order is strict and total
(`Address.lt_irrefl`, `Address.lt_trans`, `Address.lt_trichotomy`).
-/

namespace RouteHealth

/-- an IPv4 address -/
structure IPv4 where
  octets : Bytes
  length_octets : octets.length = 4
  deriving DecidableEq

/-- an IPv6 address -/
structure IPv6 where
  octets : Bytes
  length_octets : octets.length = 16
  deriving DecidableEq

namespace IPv4

def ofNat (n : Nat) : IPv4 := ⟨Bytes.ofNat 4 n, Bytes.length_ofNat 4 n⟩

def toNat (a : IPv4) : Nat := Bytes.toNat a.octets

/-- the address `0.0.0.0` -/
def unspecified : IPv4 := ofNat 0

@[ext] theorem ext {a b : IPv4} (h : a.octets = b.octets) : a = b := by
  cases a; cases b; simp_all

end IPv4

namespace IPv6

def ofNat (n : Nat) : IPv6 := ⟨Bytes.ofNat 16 n, Bytes.length_ofNat 16 n⟩

def toNat (a : IPv6) : Nat := Bytes.toNat a.octets

/-- the address `::` -/
def unspecified : IPv6 := ofNat 0

@[ext] theorem ext {a b : IPv6} (h : a.octets = b.octets) : a = b := by
  cases a; cases b; simp_all

end IPv6

/-- an address of either family -/
inductive Address where
  | v4 (a : IPv4)
  | v6 (a : IPv6)
  deriving DecidableEq

namespace Address

def family : Address → Afi
  | v4 _ => .ipv4
  | v6 _ => .ipv6

def octets : Address → Bytes
  | v4 a => a.octets
  | v6 a => a.octets

theorem length_octets (a : Address) : a.octets.length = a.family.octetCount := by
  cases a with
  | v4 a => exact a.length_octets
  | v6 a => exact a.length_octets

/-- the address of a family with the given octets, if they are as many as the family has -/
def ofOctets? (family : Afi) (bs : Bytes) : Option Address :=
  match family with
  | .ipv4 => if h : bs.length = 4 then some (v4 ⟨bs, h⟩) else none
  | .ipv6 => if h : bs.length = 16 then some (v6 ⟨bs, h⟩) else none

def ipv4? : Address → Option IPv4
  | v4 a => some a
  | v6 _ => none

def ipv6? : Address → Option IPv6
  | v4 _ => none
  | v6 a => some a

/-- the sort key of an address: its family, then its octets -/
def key (a : Address) : List UInt8 :=
  UInt8.ofNat a.family.octetCount :: a.octets

theorem key_inj {a b : Address} (h : a.key = b.key) : a = b := by
  cases a <;> cases b <;> simp [key, family, Afi.octetCount, octets] at h
  · exact congrArg v4 (IPv4.ext h)
  · exact congrArg v6 (IPv6.ext h)

instance : LT Address := ⟨fun a b => a.key < b.key⟩

instance (a b : Address) : Decidable (a < b) := inferInstanceAs (Decidable (a.key < b.key))

theorem lt_irrefl (a : Address) : ¬ a < a := List.lt_irrefl a.key

theorem lt_trans {a b c : Address} (hab : a < b) (hbc : b < c) : a < c :=
  show a.key < c.key from List.lt_trans hab hbc

theorem lt_trichotomy (a b : Address) : a < b ∨ a = b ∨ b < a := by
  by_cases hab : a < b
  · exact .inl hab
  by_cases hba : b < a
  · exact .inr (.inr hba)
  · exact .inr (.inl (key_inj (List.le_antisymm (List.not_lt.mp hba) (List.not_lt.mp hab))))

end Address

end RouteHealth
