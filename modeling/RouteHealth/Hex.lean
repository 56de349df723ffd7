import RouteHealth.Bytes

/-!
# Hexadecimal text

Octets are shown as two lower-case digits each; digits of either case are read.
-/

namespace RouteHealth.Hex

def value? (c : Char) : Option Nat :=
  if '0' ≤ c ∧ c ≤ '9' then some (c.toNat - '0'.toNat)
  else if 'a' ≤ c ∧ c ≤ 'f' then some (c.toNat - 'a'.toNat + 10)
  else if 'A' ≤ c ∧ c ≤ 'F' then some (c.toNat - 'A'.toNat + 10)
  else none

/-- the number written by a string of hexadecimal digits -/
def number? (cs : List Char) : Option Nat :=
  cs.foldlM (fun n c => (value? c).map (16 * n + ·)) 0

def digits (b : UInt8) : List Char :=
  [Nat.digitChar (b.toNat / 16), Nat.digitChar (b.toNat % 16)]

def chars (bs : Bytes) : List Char := bs.flatMap digits

def text (bs : Bytes) : String := String.ofList (chars bs)

def ofChars? : List Char → Option Bytes
  | [] => some []
  | hi :: lo :: rest => do
    let h ← value? hi
    let l ← value? lo
    let bs ← ofChars? rest
    return UInt8.ofNat (16 * h + l) :: bs
  | [_] => none

def ofText? (s : String) : Option Bytes := ofChars? s.toList

end RouteHealth.Hex
