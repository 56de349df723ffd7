/-!
# Decimal text

Numbers are shown without sign, leading zeros or separators.  A reader of a particular format adds
its own restrictions to `Decimal.ofDigits?`.
-/

namespace RouteHealth.Decimal

def chars (n : Nat) : List Char := Nat.toDigits 10 n

def text (n : Nat) : String := String.ofList (chars n)

/-- the number written by one or more ASCII digits; leading zeros are allowed -/
def ofDigits? (cs : List Char) : Option Nat :=
  if cs ≠ [] ∧ cs.all Char.isDigit then some (Nat.ofDigitChars 10 cs 0) else none

end RouteHealth.Decimal
