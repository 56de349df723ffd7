import RouteHealth.Json
import RouteHealth.Notification.Fault

/-!
# Faults as JSON

A fault is an object whose only key is its category.  An assigned subcode is written by name, any
other by number.
-/

namespace RouteHealth

def Json.octet? (j : Json) : Option UInt8 := (j.nat? 255).map UInt8.ofNat

namespace OpenRegistry

variable {α : Type} [OpenRegistry α] [DecidableEq α]

/-- a member as JSON: its name, or a number under the key `Unknown` -/
def toJson (a : α) : Json :=
  if a ∈ Registry.members then .ofText (Registry.name a)
  else .ofMembers [("Unknown", .ofNat (Registry.code a))]

/-- the member that a JSON value is; a name may also be the only key of an object, with no value -/
def ofJson? : Json → Option α
  | .string (.text name) => Registry.ofName? name
  | .object [(.text name, value)] =>
    if name = "Unknown" then value.octet?.map unknown
    else match value with
      | .null => Registry.ofName? name
      | _ => none
  | _ => none

end OpenRegistry

namespace Fault

def category : Fault → String
  | reserved _ => "Reserved"
  | header _ => "MessageHeaderError"
  | openMessage _ => "OpenError"
  | updateMessage _ => "UpdateError"
  | holdTimerExpired _ => "HoldTimerExpired"
  | stateMachine _ => "FiniteStateMachineError"
  | cease _ => "CeaseNotification"
  | unknown _ _ => "Unknown"

def detail : Fault → Json
  | reserved subcode => .ofNat subcode.toNat
  | header fault => OpenRegistry.toJson fault
  | openMessage fault => OpenRegistry.toJson fault
  | updateMessage fault => OpenRegistry.toJson fault
  | holdTimerExpired subcode => .ofNat subcode.toNat
  | stateMachine fault => OpenRegistry.toJson fault
  | cease reason => OpenRegistry.toJson reason
  | unknown code subcode => .array [.ofNat code.toNat, .ofNat subcode.toNat]

def toJson (f : Fault) : Json := .ofMembers [(f.category, f.detail)]

def ofCategory? (category : String) (detail : Json) : Option Fault :=
  match category with
  | "Reserved" => detail.octet?.map reserved
  | "MessageHeaderError" => (OpenRegistry.ofJson? detail).map header
  | "OpenError" => (OpenRegistry.ofJson? detail).map openMessage
  | "UpdateError" => (OpenRegistry.ofJson? detail).map updateMessage
  | "HoldTimerExpired" => detail.octet?.map holdTimerExpired
  | "FiniteStateMachineError" => (OpenRegistry.ofJson? detail).map stateMachine
  | "CeaseNotification" => (OpenRegistry.ofJson? detail).map cease
  | "Unknown" =>
    match detail with
    | .array [code, subcode] => do
      let code ← code.octet?
      let subcode ← subcode.octet?
      return unknown code subcode
    | _ => none
  | _ => none

def ofJson? : Json → Option Fault
  | .object [(.text category, detail)] => ofCategory? category detail
  | _ => none

end Fault

end RouteHealth
