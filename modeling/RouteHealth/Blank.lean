/-!
# Blank characters

The characters with the Unicode property `White_Space`, and trimming by it.
-/

namespace RouteHealth

/-- the code points with the property `White_Space`, as inclusive ranges -/
def blankRanges : List (Nat × Nat) :=
  [(0x9, 0xD), (0x20, 0x20), (0x85, 0x85), (0xA0, 0xA0), (0x1680, 0x1680), (0x2000, 0x200A),
    (0x2028, 0x2029), (0x202F, 0x202F), (0x205F, 0x205F), (0x3000, 0x3000)]

/-- whether a character has the property `White_Space` -/
def isBlank (c : Char) : Bool :=
  blankRanges.any fun (first, last) => first ≤ c.toNat && c.toNat ≤ last

def trimBlanks (cs : List Char) : List Char :=
  ((cs.dropWhile isBlank).reverse.dropWhile isBlank).reverse

example : (blankRanges.map fun (first, last) => last + 1 - first).sum = 25 := rfl

end RouteHealth
