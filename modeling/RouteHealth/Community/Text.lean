import RouteHealth.Blank
import RouteHealth.Community
import RouteHealth.Decimal

/-!
# The text of a community

A community is written `ASN:VALUE` in decimal.  A reader splits at the first colon, ignores blanks
around either half, and allows a plus sign and leading zeros in each.
-/

namespace RouteHealth.Community

/-- a text that is not a community -/
structure TextError where
  text : String
  deriving DecidableEq

def TextError.message (e : TextError) : String := "invalid community: " ++ e.text

def chars (c : Community) : List Char :=
  Decimal.chars c.asn.toNat ++ ':' :: Decimal.chars c.value.toNat

def text (c : Community) : String := String.ofList c.chars

/-- a number below 65536, with an optional plus sign and any leading zeros -/
def half? (cs : List Char) : Option UInt16 := do
  let digits := match cs with
    | '+' :: rest => rest
    | _ => cs
  let n ← Decimal.ofDigits? digits
  if n ≤ 65535 then some (UInt16.ofNat n) else none

def ofChars? (cs : List Char) : Option Community :=
  match cs.dropWhile (· ≠ ':') with
  | [] => none
  | _ :: right => do
    let asn ← half? (trimBlanks (cs.takeWhile (· ≠ ':')))
    let value ← half? (trimBlanks right)
    return ofParts asn value

def ofText (s : String) : Except TextError Community :=
  match ofChars? s.toList with
  | some c => .ok c
  | none => .error ⟨s⟩

end RouteHealth.Community
