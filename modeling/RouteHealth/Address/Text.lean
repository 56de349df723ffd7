import RouteHealth.Address
import RouteHealth.Decimal
import RouteHealth.Hex

/-!
# The text of an address

An IPv4 address is written as four decimal octets, and only in its shortest spelling.  An IPv6
address is written as eight groups of hexadecimal digits.  A reader accepts one to four digits of
either case in a group, one `::` for one or more groups of zeros, and a dotted quad for the last two
groups.  The writer uses the shortest lower-case groups, puts `::` for the longest run of at least
two zero groups (the first of several), and writes a quad in an IPv4-mapped address only.
-/

namespace RouteHealth

namespace IPv4

def chars (a : IPv4) : List Char :=
  ['.'].intercalate (a.octets.map fun o => Decimal.chars o.toNat)

def text (a : IPv4) : String := String.ofList a.chars

def octet? (cs : List Char) : Option UInt8 := do
  let n ← Decimal.ofDigits? cs
  if n ≤ 255 ∧ cs = Decimal.chars n then some (UInt8.ofNat n) else none

def ofChars? (cs : List Char) : Option IPv4 :=
  match (cs.splitOn '.').mapM octet? with
  | some [a, b, c, d] => some ⟨[a, b, c, d], rfl⟩
  | _ => none

def ofText? (s : String) : Option IPv4 := ofChars? s.toList

end IPv4

namespace IPv6

def pairs : Bytes → List Nat
  | hi :: lo :: rest => (256 * hi.toNat + lo.toNat) :: pairs rest
  | _ => []

def groups (a : IPv6) : List Nat := pairs a.octets

/-- the address with the given groups, if they are eight -/
def ofGroups? (gs : List Nat) : Option IPv6 :=
  if h : (gs.flatMap (Bytes.ofNat 2)).length = 16 then some ⟨gs.flatMap (Bytes.ofNat 2), h⟩ else none

def groupChars (gs : List Nat) : List Char :=
  [':'].intercalate (gs.map (Nat.toDigits 16))

/-- how many zero groups stand from position `i` on -/
def zerosFrom (gs : List Nat) (i : Nat) : Nat :=
  ((gs.drop i).takeWhile (· = 0)).length

/-- the position and length of the longest run of zero groups, the first of several -/
def longestZeros (gs : List Nat) : Nat × Nat :=
  (List.range gs.length).foldl
    (fun best i => if best.2 < zerosFrom gs i then (i, zerosFrom gs i) else best) (0, 0)

def mappedStart : Bytes := [0, 0, 0, 0, 0, 0, 0, 0, 0, 0, 255, 255]

def mapped? (a : IPv6) : Option IPv4 :=
  if a.octets.take 12 = mappedStart then
    some ⟨a.octets.drop 12, by rw [List.length_drop, a.length_octets]⟩
  else none

def chars (a : IPv6) : List Char :=
  match a.mapped? with
  | some quad => "::ffff:".toList ++ quad.chars
  | none =>
    let (start, length) := longestZeros a.groups
    if 2 ≤ length then
      groupChars (a.groups.take start) ++ [':', ':'] ++ groupChars (a.groups.drop (start + length))
    else groupChars a.groups

def text (a : IPv6) : String := String.ofList a.chars

/-- the two sides of the first `::` -/
def cutAtElision? : List Char → Option (List Char × List Char)
  | [] => none
  | ':' :: ':' :: rest => some ([], rest)
  | c :: rest => (cutAtElision? rest).map fun (front, back) => (c :: front, back)

def group? (cs : List Char) : Option Nat :=
  if 1 ≤ cs.length ∧ cs.length ≤ 4 then Hex.number? cs else none

/-- groups separated by colons, possibly none -/
def groups? (cs : List Char) : Option (List Nat) :=
  if cs = [] then some [] else (cs.splitOn ':').mapM group?

/-- the groups in a list of pieces, the last of which may be a dotted quad for two groups -/
def pieces? : List (List Char) → Option (List Nat)
  | [] => some []
  | [last] => ((group? last).map ([·])) <|> ((IPv4.ofChars? last).map fun a => pairs a.octets)
  | piece :: rest => do
    let g ← group? piece
    let gs ← pieces? rest
    return g :: gs

/-- groups separated by colons, possibly none and possibly ending in a dotted quad -/
def groupsAndQuad? (cs : List Char) : Option (List Nat) :=
  if cs = [] then some [] else pieces? (cs.splitOn ':')

def ofChars? (cs : List Char) : Option IPv6 :=
  match cutAtElision? cs with
  | none => (groupsAndQuad? cs).bind ofGroups?
  | some (front, back) => do
    let head ← groups? front
    let tail ← groupsAndQuad? back
    if head.length + tail.length < 8 then
      ofGroups? (head ++ List.replicate (8 - (head.length + tail.length)) 0 ++ tail)
    else none

def ofText? (s : String) : Option IPv6 := ofChars? s.toList

end IPv6

namespace Address

def chars : Address → List Char
  | v4 a => a.chars
  | v6 a => a.chars

def text (a : Address) : String := String.ofList a.chars

def ofChars? (cs : List Char) : Option Address :=
  ((IPv4.ofChars? cs).map v4) <|> ((IPv6.ofChars? cs).map v6)

def ofText? (s : String) : Option Address := ofChars? s.toList

end Address

end RouteHealth
