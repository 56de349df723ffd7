import RouteHealth.Decimal
import RouteHealth.Json

/-!
# Writing JSON

The text of a value without any blanks.  Only quotes, backslashes and control characters are
escaped.
-/

namespace RouteHealth

def Numeral.chars (n : Numeral) : List Char :=
  (if n.negative then ['-'] else []) ++ Decimal.chars n.whole ++
  (if n.fraction = [] then [] else '.' :: n.fraction.map fun d => Nat.digitChar d.val) ++
  (match n.exponent with
    | none => []
    | some e => 'e' :: (if e < 0 then ['-'] else []) ++ Decimal.chars e.natAbs)

namespace Literal

def escape (c : Char) : List Char :=
  if c = '"' then ['\\', '"']
  else if c = '\\' then ['\\', '\\']
  else if c = '\n' then ['\\', 'n']
  else if c = '\r' then ['\\', 'r']
  else if c = '\t' then ['\\', 't']
  else if c.toNat = 8 then ['\\', 'b']
  else if c.toNat = 12 then ['\\', 'f']
  else if c.toNat < 32 then
    ['\\', 'u', '0', '0', Nat.digitChar (c.toNat / 16), Nat.digitChar (c.toNat % 16)]
  else [c]

def chars : Literal → List Char
  | text s => '"' :: s.toList.flatMap escape ++ ['"']
  | unpaired => "\"\\ud800\"".toList

end Literal

namespace Json

mutual

def chars : Json → List Char
  | null => "null".toList
  | bool b => if b then "true".toList else "false".toList
  | number n => n.chars
  | string s => s.chars
  | array items => '[' :: itemsChars items ++ [']']
  | object members => '\x7b' :: membersChars members ++ ['\x7d']

def itemsChars : List Json → List Char
  | [] => []
  | [item] => item.chars
  | item :: items => item.chars ++ ',' :: itemsChars items

def membersChars : List (Literal × Json) → List Char
  | [] => []
  | [(key, value)] => key.chars ++ ':' :: value.chars
  | (key, value) :: members => key.chars ++ ':' :: value.chars ++ ',' :: membersChars members

end

def text (j : Json) : String := String.ofList j.chars

end Json

end RouteHealth
