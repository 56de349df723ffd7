/-!
# JSON documents

The values of JSON.  Members of an object keep their order and may repeat a key.  A number keeps its
sign, digits and exponent, because `1`, `1.0` and `1e0` are not equally good where a whole number is
asked for.
-/

namespace RouteHealth

/-- a number as it is written -/
structure Numeral where
  negative : Bool
  whole : Nat
  fraction : List (Fin 10)
  exponent : Option Int
  deriving DecidableEq

/-- a string as it is written -/
inductive Literal where
  | text (s : String)
  /-- an escape stands for one half of a surrogate pair: the string is well formed but has no text -/
  | unpaired
  deriving DecidableEq

/-- a JSON value -/
inductive Json where
  | null
  | bool (b : Bool)
  | number (n : Numeral)
  | string (s : Literal)
  | array (items : List Json)
  | object (members : List (Literal × Json))
  deriving Inhabited

namespace Json

def ofNat (n : Nat) : Json := .number ⟨false, n, [], none⟩

def ofText (s : String) : Json := .string (.text s)

def ofMembers (members : List (String × Json)) : Json :=
  .object (members.map fun (key, value) => (.text key, value))

/-- the whole number of at most `bound` that a value is -/
def nat? (bound : Nat) : Json → Option Nat
  | .number ⟨false, n, [], none⟩ => if n ≤ bound then some n else none
  | _ => none

def bool? : Json → Option Bool
  | .bool b => some b
  | _ => none

def text? : Json → Option String
  | .string (.text s) => some s
  | _ => none

/-- the items of an array, each decoded -/
def list? {α : Type} (decode : Json → Option α) : Json → Option (List α)
  | .array items => items.mapM decode
  | _ => none

def key? : Literal → Option String
  | .text s => some s
  | .unpaired => none

/-- The values that a document gives for the named fields of a record, in the order of the names.
An object names them, at most once each, and may have other members.  An array gives the first
fields in order. -/
def fields? (names : List String) : Json → Option (List (Option Json))
  | .object members => do
    let pairs ← members.mapM fun (key, value) => (key? key).map fun k => (k, value)
    if names.all fun name => (pairs.filter (·.1 = name)).length ≤ 1 then
      return names.map fun name => pairs.lookup name
    else none
  | .array items =>
    if items.length ≤ names.length then
      some (items.map some ++ List.replicate (names.length - items.length) none)
    else none
  | _ => none

/-- a field of a record, with a value for when it is not given -/
def field {α : Type} (decode : Json → Option α) (missing : α) : Option Json → Option α
  | none => some missing
  | some j => decode j

end Json

end RouteHealth
