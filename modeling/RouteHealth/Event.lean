import RouteHealth.Reading
import RouteHealth.RenderError

/-!
# Events

What the library tells an operator while it works.
-/

namespace RouteHealth

/-- how much an event matters -/
inductive Level where
  | debug
  | warn
  deriving DecidableEq

/-- something an operator may want to know -/
inductive Event where
  | longBodySplit (size routes : Nat)
  | failureSplit (routes : Nat) (cause : RenderError)
  | batchFailed (routes : Nat) (cause : RenderError)
  | parametersLength (declared actual : Nat)
  | parametersMalformed (cause : ReadError)
  | parameterSkipped (type : UInt8)
  | messageKept (type : UInt8)
  | keepAliveBody (size : Nat)
  | unknownFault (code subcode : UInt8)
  deriving DecidableEq

namespace Event

def level : Event → Level
  | longBodySplit .. | failureSplit .. | parameterSkipped .. | messageKept .. => .debug
  | batchFailed .. | parametersLength .. | parametersMalformed .. | keepAliveBody ..
  | unknownFault .. => .warn

def message : Event → String
  | longBodySplit size routes =>
    "UPDATE body of " ++ Decimal.text size ++ " bytes for " ++ Decimal.text routes ++
      " routes exceeds " ++ Decimal.text bodyBound ++ " bytes, splitting"
  | failureSplit routes cause =>
    "splitting " ++ Decimal.text routes ++ " routes after render failure: " ++ cause.message
  | batchFailed routes cause =>
    "failed to render " ++ Decimal.text routes ++ " routes: " ++ cause.message
  | parametersLength declared actual =>
    "BGP open message optional parameters length " ++ Decimal.text declared ++
      " does not match the actual length " ++ Decimal.text actual
  | parametersMalformed cause =>
    "error parsing BGP open message optional parameters: " ++ cause.message
  | parameterSkipped type => "skipping optional parameter type " ++ Decimal.text type.toNat
  | messageKept type => "preserving BGP message of unknown type " ++ Decimal.text type.toNat
  | keepAliveBody size =>
    "KEEPALIVE message carries " ++ Decimal.text size ++ " unexpected bytes"
  | unknownFault code subcode =>
    "unknown BGP notification error code: " ++ Decimal.text code.toNat ++ ", subcode: " ++
      Decimal.text subcode.toNat

end Event

end RouteHealth
