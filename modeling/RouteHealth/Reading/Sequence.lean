import RouteHealth.Reading

/-!
# Sequences of reads

Reads of all kinds, as data, so that a sequence of them can be tried one after the other on the same
octets.  Each read is tried whatever became of the ones before it.
-/

namespace RouteHealth

/-- a request to read -/
inductive Request where
  | require (n : Nat)
  | octet
  | word16
  | word32
  | ipv4
  | afi
  | safi
  | octets (n : Nat)
  deriving DecidableEq

/-- what a read gives -/
inductive Reply where
  | available
  | number (n : Nat)
  | ipv4 (a : IPv4)
  | afi (family : Afi)
  | safi (subsequent : Safi)
  | octets (bs : Bytes)
  deriving DecidableEq

namespace Request

def width : Request → Nat
  | require n => n
  | octet => 1
  | word16 => 2
  | word32 => 4
  | ipv4 => 4
  | afi => 2
  | safi => 1
  | octets n => n

def reader : Request → Reader Reply
  | require n => do
    Reader.require n
    return .available
  | octet => return .number (← Reader.octet).toNat
  | word16 => return .number (← Reader.word16).toNat
  | word32 => return .number (← Reader.word32).toNat
  | ipv4 => return .ipv4 (← Reader.ipv4)
  | afi => return .afi (← Reader.afi)
  | safi => return .safi (← Reader.safi)
  | octets n => return .octets (← Reader.octets n)

/-- the outcome of each request in turn, and what is unread after it -/
def answers : List Request → Bytes → List (Except ReadError Reply × Bytes)
  | [], _ => []
  | q :: qs, bs =>
    let answer := q.reader.runOn bs
    answer :: answers qs answer.2

end Request

end RouteHealth
