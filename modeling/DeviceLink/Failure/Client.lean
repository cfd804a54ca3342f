import DeviceLink.Failure.Kind

/-!
# Faults of the protocol client

Two spaces of numbers feed this type: the codes with which a broker refuses a connection, and the
result codes of every other call of the protocol client.  Each code keeps a fault of its own, so
the meaning it had survives as the cause of the failure that is reported.

* `ClientFault.ofConnectCode`, `ClientFault.ofResultCode` — the two tables.
* `ClientFault.kind` — the kind of failure a fault is reported as.
-/

namespace DeviceLink

/-- A fault as the protocol client names it. -/
inductive ClientFault where
  | refusedProtocolVersion
  | refusedIdentifierRejected
  | refusedServerUnavailable
  | refusedBadUsernamePassword
  | refusedNotAuthorized
  | refusedUnknown (code : Nat)
  | noMemory
  | protocol
  | invalidArgs
  | noConnection
  | connectionRefused
  | notFound
  | connectionLost
  | tls
  | payloadSize
  | notSupported
  | auth
  | aclDenied
  | unknown
  | queueSize
  | unknownCode (code : Int)
  deriving DecidableEq, Repr

namespace ClientFault

/-! ## The two tables -/

/-- The fault behind the code with which a broker refused a connection. -/
def ofConnectCode (code : Nat) : ClientFault :=
  match code with
  | 1 => refusedProtocolVersion
  | 2 => refusedIdentifierRejected
  | 3 => refusedServerUnavailable
  | 4 => refusedBadUsernamePassword
  | 5 => refusedNotAuthorized
  | n => refusedUnknown n

/-- The fault behind a result code; 14 stands for a system error whose number is lost. -/
def ofResultCode (code : Int) : ClientFault :=
  match code with
  | 1 => noMemory
  | 2 => protocol
  | 3 => invalidArgs
  | 4 => noConnection
  | 5 => connectionRefused
  | 6 => notFound
  | 7 => connectionLost
  | 8 => tls
  | 9 => payloadSize
  | 10 => notSupported
  | 11 => auth
  | 12 => aclDenied
  | 13 => unknown
  | 14 => unknown
  | 15 => queueSize
  | n => unknownCode n

/-! ## Wording -/

def message : ClientFault → String
  | refusedProtocolVersion => "Connection Refused: unacceptable protocol version."
  | refusedIdentifierRejected => "Connection Refused: identifier rejected."
  | refusedServerUnavailable => "Connection Refused: broker unavailable."
  | refusedBadUsernamePassword => "Connection Refused: bad user name or password."
  | refusedNotAuthorized => "Connection Refused: not authorised."
  | refusedUnknown code => s!"Connection Refused: unknown reason (code {code})."
  | noMemory => "Out of memory."
  | protocol => "A network protocol error occurred when communicating with the broker."
  | invalidArgs => "Invalid function arguments provided."
  | noConnection => "The client is not currently connected."
  | connectionRefused => "The connection was refused."
  | notFound => "Message not found (internal error)."
  | connectionLost => "The connection was lost."
  | tls => "A TLS error occurred."
  | payloadSize => "Payload too large."
  | notSupported => "This feature is not supported."
  | auth => "Authorisation failed."
  | aclDenied => "Access denied by ACL."
  | unknown => "Unknown error."
  | queueSize => "Message queue full."
  | unknownCode code => s!"Unknown result code {code}."

def shown : ClientFault → String
  | refusedProtocolVersion => "RefusedProtocolVersion"
  | refusedIdentifierRejected => "RefusedIdentifierRejected"
  | refusedServerUnavailable => "RefusedServerUnavailable"
  | refusedBadUsernamePassword => "RefusedBadUsernamePassword"
  | refusedNotAuthorized => "RefusedNotAuthorized"
  | refusedUnknown code => s!"RefusedUnknown({code})"
  | noMemory => "NoMemory"
  | protocol => "Protocol"
  | invalidArgs => "InvalidArgs"
  | noConnection => "NoConnection"
  | connectionRefused => "ConnectionRefused"
  | notFound => "NotFound"
  | connectionLost => "ConnectionLost"
  | tls => "Tls"
  | payloadSize => "PayloadSize"
  | notSupported => "NotSupported"
  | auth => "Auth"
  | aclDenied => "AclDenied"
  | unknown => "Unknown"
  | queueSize => "QueueSize"
  | unknownCode code => s!"UnknownCode({code})"

/-! ## Kinds -/

def kind : ClientFault → Failure.Kind
  | refusedServerUnavailable => .connectionFailed
  | refusedBadUsernamePassword | refusedNotAuthorized => .unauthorized
  | refusedProtocolVersion | refusedIdentifierRejected | refusedUnknown _ => .transport
  | noConnection | connectionLost => .connectionDropped
  | connectionRefused | tls | auth | aclDenied => .unauthorized
  | noMemory | protocol | invalidArgs | notFound | payloadSize | notSupported | unknown
  | queueSize | unknownCode _ => .transport

end ClientFault

end DeviceLink
