/-!
# Octet strings

Everything on the wire is a list of octets, and a number on the wire is written in a fixed number
of octets, the most significant one first.  `Bytes.ofNat` writes a number that way and `Bytes.toNat`
reads it; every octet string is what is written for the number it reads as (`ofNat_toNat`).
-/

namespace RouteHealth

/-- a string of octets, in wire order -/
abbrev Bytes := List UInt8

namespace Bytes

/-- the last `width` base-256 digits of `n`, most significant first -/
def ofNat : (width : Nat) → (n : Nat) → Bytes
  | 0, _ => []
  | width + 1, n => ofNat width (n / 256) ++ [UInt8.ofNat n]

/-- the number whose base-256 digits are the octets, most significant first -/
def toNat (bs : Bytes) : Nat :=
  bs.foldl (fun n b => 256 * n + b.toNat) 0

def ofWord16 (w : UInt16) : Bytes := ofNat 2 w.toNat

def ofWord32 (w : UInt32) : Bytes := ofNat 4 w.toNat

@[simp] theorem length_ofNat (width n : Nat) : (ofNat width n).length = width := by
  induction width generalizing n with
  | zero => rfl
  | succ width ih => simp [ofNat, ih]

@[simp] theorem toNat_nil : toNat [] = 0 := rfl

@[simp] theorem toNat_append_singleton (bs : Bytes) (b : UInt8) :
    toNat (bs ++ [b]) = 256 * toNat bs + b.toNat := by
  simp [toNat]

/-- an octet string is the digits of the number it reads as -/
theorem ofNat_toNat (bs : Bytes) : ofNat bs.length (toNat bs) = bs := by
  suffices ∀ rs : Bytes, ofNat rs.length (toNat rs.reverse) = rs.reverse by
    simpa using this bs.reverse
  intro rs
  induction rs with
  | nil => rfl
  | cons b rs ih =>
    have hb : b.toNat < 256 := b.toNat_lt
    simp only [List.length_cons, List.reverse_cons, ofNat, toNat_append_singleton]
    congr 1
    · rw [show (256 * toNat rs.reverse + b.toNat) / 256 = toNat rs.reverse by omega, ih]
    · simp only [List.cons.injEq, and_true]
      apply UInt8.toNat_inj.mp
      rw [UInt8.toNat_ofNat']
      omega

end Bytes

end RouteHealth
