import RouteHealth.Notification
import RouteHealth.Open

/-!
# Messages

A message as it is handed to and taken from the transport: a type octet and a body.  The bodies of
OPEN and NOTIFICATION are read; all others are kept as octets, and a message of a type that is not
known is kept whole.
-/

namespace RouteHealth

/-- the known types of messages -/
inductive MessageType where
  | opening
  | update
  | notification
  | keepAlive
  deriving DecidableEq

instance : ClosedRegistry MessageType where
  space := .messageType
  members := [.opening, .update, .notification, .keepAlive]
  code
    | .opening => 1
    | .update => 2
    | .notification => 3
    | .keepAlive => 4
  name
    | .opening => "OPEN"
    | .update => "UPDATE"
    | .notification => "NOTIFICATION"
    | .keepAlive => "KEEPALIVE"

def MessageType.octet (t : MessageType) : UInt8 := UInt8.ofNat (Registry.code t)

/-- a message without its header -/
inductive Message where
  | opening (content : Open)
  | update (body : Bytes)
  | notification (content : Notification)
  | keepAlive
  | other (type : UInt8) (body : Bytes)
  deriving DecidableEq

namespace Message

def type : Message → UInt8
  | opening _ => MessageType.opening.octet
  | update _ => MessageType.update.octet
  | notification _ => MessageType.notification.octet
  | keepAlive => MessageType.keepAlive.octet
  | other type _ => type

def body : Message → Bytes
  | opening content => content.body
  | update body => body
  | notification content => content.body
  | keepAlive => []
  | other _ body => body

def ofParts (type : UInt8) (body : Bytes) : Except ReadError Message :=
  match (Registry.ofCode? type.toNat : Option MessageType) with
  | some .opening => (Open.ofBody body).map opening
  | some .update => .ok (update body)
  | some .notification => (Notification.ofBody body).map notification
  | some .keepAlive => .ok keepAlive
  | none => .ok (other type body)

def partsEvents (type : UInt8) (body : Bytes) : List Event :=
  match (Registry.ofCode? type.toNat : Option MessageType) with
  | some .opening => Open.bodyEvents body
  | some .keepAlive => if body = [] then [] else [.keepAliveBody body.length]
  | some .update | some .notification => []
  | none => [.messageKept type]

end Message

end RouteHealth
