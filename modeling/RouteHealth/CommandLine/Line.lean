import RouteHealth.Json.Read
import RouteHealth.Json.Write
import RouteHealth.Message

/-!
# Printed messages

A message is printed on one line, either as its type and the hexadecimal text of its body or as a
JSON object that has the length of the body as well.
-/

namespace RouteHealth.CommandLine

/-- what a printed line says -/
structure Line where
  type : UInt8
  body : Bytes
  deriving DecidableEq

namespace Line

def ofMessage (m : Message) : Line := ⟨m.type, m.body⟩

def plain (l : Line) : String := Decimal.text l.type.toNat ++ " " ++ Hex.text l.body

def toJson (l : Line) : Json :=
  .ofMembers [("body", .ofText (Hex.text l.body)), ("length", .ofNat l.body.length),
    ("type", .ofNat l.type.toNat)]

/-- the text of a line, as JSON or not -/
def text (json : Bool) (l : Line) : String := if json then l.toJson.text else l.plain

def ofPlain? (s : String) : Option Line :=
  match s.toList.dropWhile Char.isDigit with
  | ' ' :: body => do
    let type ← Decimal.ofDigits? (s.toList.takeWhile Char.isDigit)
    let body ← Hex.ofChars? body
    if type ≤ 255 then some ⟨UInt8.ofNat type, body⟩ else none
  | _ => none

/-- the line that a JSON value is, if its length is that of its body -/
def ofJson? (j : Json) : Option Line := do
  match ← j.fields? ["body", "length", "type"] with
  | [some body, some length, some type] =>
    let body ← body.text?.bind Hex.ofText?
    let length ← length.nat? body.length
    let type ← type.nat? 255
    if length = body.length then some ⟨UInt8.ofNat type, body⟩ else none
  | _ => none

/-- the line that a text is, as JSON or not -/
def ofText? (json : Bool) (s : String) : Option Line :=
  if json then (Json.ofText? s).bind ofJson? else ofPlain? s

end Line

end RouteHealth.CommandLine
