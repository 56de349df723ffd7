import RouteHealth.Address.Text
import RouteHealth.Attribute

/-!
# Why routes cannot be rendered
-/

namespace RouteHealth

/-- an UPDATE body that is sent is shorter than this, which leaves room for the header in a message
of 4096 octets -/
def bodyBound : Nat := 4000

/-- the parts of an UPDATE body with a two-octet length -/
inductive Section where
  | withdrawnRoutes
  | pathAttributes
  deriving DecidableEq

def Section.name : Section → String
  | withdrawnRoutes => "withdrawn routes"
  | pathAttributes => "path attributes"

/-- why a set of routes has no UPDATE body -/
inductive RenderError where
  /-- the body of one route alone is too long for a message -/
  | unsplittableRoute (route : Address) (size : Nat)
  /-- the value of an attribute is too long for a two-octet length -/
  | attributeTooLarge (kind : Attribute.Kind) (size : Nat)
  /-- a part of the body is too long for its two-octet length -/
  | sectionTooLarge (part : Section) (size : Nat)
  deriving DecidableEq

def RenderError.message : RenderError → String
  | unsplittableRoute route size =>
    "route " ++ route.text ++ " renders to " ++ Decimal.text size ++
      " bytes, which does not fit in one UPDATE message"
  | attributeTooLarge kind size =>
    Registry.name kind ++ " attribute value of " ++ Decimal.text size ++
      " bytes exceeds the extended length limit"
  | sectionTooLarge part size =>
    "UPDATE " ++ part.name ++ " section of " ++ Decimal.text size ++
      " bytes exceeds the 2-octet length field"

end RouteHealth
