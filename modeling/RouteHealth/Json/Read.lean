import RouteHealth.Decimal
import RouteHealth.Hex
import RouteHealth.Json

/-!
# Reading JSON

The strict grammar: blanks are space, tab, line feed and carriage return; a string holds no control
characters; a number has no leading zeros and digits on both sides of its point; nothing follows the
value.  There is no limit on nesting: what is not used is passed over however deep it is, and no record has
a field that is more than a few levels deep, so that a limit on what is used would never be met.
-/

namespace RouteHealth

/-- whether a character may stand between the parts of a document -/
def isJsonBlank (c : Char) : Bool := c = ' ' || c = '\t' || c = '\n' || c = '\r'

def skipBlanks (cs : List Char) : List Char := cs.dropWhile isJsonBlank

namespace Numeral

/-- a run of digits and what follows it; a run of none is refused -/
def digits? (cs : List Char) : Option (List Char × List Char) :=
  match cs.takeWhile Char.isDigit with
  | [] => none
  | ds => some (ds, cs.dropWhile Char.isDigit)

/-- the part of a number before its point: a zero alone, or digits that do not start with one -/
def whole? : List Char → Option (Nat × List Char)
  | '0' :: rest => some (0, rest)
  | cs => (digits? cs).map fun (ds, rest) => (Nat.ofDigitChars 10 ds 0, rest)

/-- the digits after the point, if there is one -/
def fraction? : List Char → Option (List (Fin 10) × List Char)
  | '.' :: cs => (digits? cs).map fun (ds, rest) =>
    (ds.map fun d => Fin.ofNat 10 (d.toNat - '0'.toNat), rest)
  | cs => some ([], cs)

def magnitude? (cs : List Char) : Option (Nat × List Char) :=
  (digits? cs).map fun (ds, rest) => (Nat.ofDigitChars 10 ds 0, rest)

def signed? : List Char → Option (Int × List Char)
  | '+' :: cs => (magnitude? cs).map fun (n, rest) => ((n : Int), rest)
  | '-' :: cs => (magnitude? cs).map fun (n, rest) => (-(n : Int), rest)
  | cs => (magnitude? cs).map fun (n, rest) => ((n : Int), rest)

/-- the exponent of ten, if there is one -/
def exponent? : List Char → Option (Option Int × List Char)
  | 'e' :: cs => (signed? cs).map fun (e, rest) => (some e, rest)
  | 'E' :: cs => (signed? cs).map fun (e, rest) => (some e, rest)
  | cs => some (none, cs)

def unsigned? (negative : Bool) (cs : List Char) : Option (Numeral × List Char) := do
  let (whole, cs) ← whole? cs
  let (fraction, cs) ← fraction? cs
  let (exponent, cs) ← exponent? cs
  return (⟨negative, whole, fraction, exponent⟩, cs)

def ofChars? : List Char → Option (Numeral × List Char)
  | '-' :: cs => unsigned? true cs
  | cs => unsigned? false cs

end Numeral

namespace Literal

/-- the character that a backslash and a letter stand for -/
def escaped? : Char → Option Nat
  | '"' => some 0x22
  | '\\' => some 0x5C
  | '/' => some 0x2F
  | 'b' => some 0x8
  | 'f' => some 0xC
  | 'n' => some 0xA
  | 'r' => some 0xD
  | 't' => some 0x9
  | _ => none

/-- the code points of a string up to its closing quote, in reverse order after those in `done`, and
what follows the quote; an escape may stand for half of a surrogate pair -/
def points? (done : List Nat) : List Char → Option (List Nat × List Char)
  | [] => none
  | '"' :: cs => some (done, cs)
  | '\\' :: 'u' :: a :: b :: c :: d :: cs =>
    match Hex.number? [a, b, c, d] with
    | some n => points? (n :: done) cs
    | none => none
  | '\\' :: c :: cs =>
    match escaped? c with
    | some n => points? (n :: done) cs
    | none => none
  | c :: cs => if c.toNat < 32 then none else points? (c.toNat :: done) cs

/-- the characters that code points and surrogate pairs stand for -/
def pair? : List Nat → Option (List Char)
  | [] => some []
  | [n] => if 0xD800 ≤ n ∧ n ≤ 0xDFFF then none else some [Char.ofNat n]
  | n :: m :: rest =>
    if 0xD800 ≤ n ∧ n ≤ 0xDBFF then
      if 0xDC00 ≤ m ∧ m ≤ 0xDFFF then
        (pair? rest).map (Char.ofNat (0x10000 + (n - 0xD800) * 0x400 + (m - 0xDC00)) :: ·)
      else none
    else if 0xDC00 ≤ n ∧ n ≤ 0xDFFF then none
    else (pair? (m :: rest)).map (Char.ofNat n :: ·)

def ofChars? (cs : List Char) : Option (Literal × List Char) :=
  (points? [] cs).map fun (points, rest) =>
    match pair? points.reverse with
    | some cs => (.text (String.ofList cs), rest)
    | none => (.unpaired, rest)

end Literal

namespace Json

mutual

/-- a value at the front of a text; `fuel` bounds the depth of calls -/
def value? : (fuel : Nat) → List Char → Option (Json × List Char)
  | 0, _ => none
  | fuel + 1, cs =>
    match skipBlanks cs with
    | 'n' :: 'u' :: 'l' :: 'l' :: rest => some (null, rest)
    | 't' :: 'r' :: 'u' :: 'e' :: rest => some (bool true, rest)
    | 'f' :: 'a' :: 'l' :: 's' :: 'e' :: rest => some (bool false, rest)
    | '"' :: rest => (Literal.ofChars? rest).map fun (s, rest) => (string s, rest)
    | '[' :: rest =>
      match skipBlanks rest with
      | ']' :: rest => some (array [], rest)
      | rest => items? fuel [] rest
    | '\x7b' :: rest =>
      match skipBlanks rest with
      | '\x7d' :: rest => some (object [], rest)
      | rest => members? fuel [] rest
    | rest => (Numeral.ofChars? rest).map fun (n, rest) => (number n, rest)

/-- the items of an array from the next one on, after those in `done`, which are in reverse order -/
def items? : (fuel : Nat) → (done : List Json) → List Char → Option (Json × List Char)
  | 0, _, _ => none
  | fuel + 1, done, cs =>
    match value? fuel cs with
    | none => none
    | some (item, rest) =>
      match skipBlanks rest with
      | ',' :: rest => items? fuel (item :: done) rest
      | ']' :: rest => some (array (item :: done).reverse, rest)
      | _ => none

/-- the members of an object from the next one on, after those in `done`, which are in reverse order -/
def members? : (fuel : Nat) → (done : List (Literal × Json)) → List Char →
    Option (Json × List Char)
  | 0, _, _ => none
  | fuel + 1, done, cs =>
    match skipBlanks cs with
    | '"' :: rest =>
      match Literal.ofChars? rest with
      | none => none
      | some (key, rest) =>
        match skipBlanks rest with
        | ':' :: rest =>
          match value? fuel rest with
          | none => none
          | some (value, rest) =>
            match skipBlanks rest with
            | ',' :: rest => members? fuel ((key, value) :: done) rest
            | '\x7d' :: rest => some (object ((key, value) :: done).reverse, rest)
            | _ => none
        | _ => none
    | _ => none

end

def ofChars? (cs : List Char) : Option Json :=
  match value? (2 * cs.length + 1) cs with
  | some (j, rest) => if skipBlanks rest = [] then some j else none
  | none => none

def ofText? (s : String) : Option Json := ofChars? s.toList

end Json

end RouteHealth
