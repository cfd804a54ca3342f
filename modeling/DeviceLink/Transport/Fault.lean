import DeviceLink.Config.Basic
import DeviceLink.Config.Problem
import DeviceLink.Failure.Basic

/-!
# Faults of the transport

What can go wrong between the link and the broker, and how it is reported: every fault of the
transport is classified as a fault of the protocol client first and becomes a failure from there,
with the transport's own words as its message.

* `Transport.Fault` — the faults, nested as they arise.
* `Transport.Fault.clientFault` — the classification.
* `Failure.ofTransport` — the failure that is reported.
-/

namespace DeviceLink.Transport

/-! ## Faults -/

/-- The kind of a system error, as far as the classification tells kinds apart. -/
inductive IoKind where
  | connectionReset
  | connectionAborted
  | brokenPipe
  | unexpectedEof
  /-- Any other kind, by its name. -/
  | other (name : String)
  deriving DecidableEq, Repr

namespace IoKind

def name : IoKind → String
  | connectionReset => "ConnectionReset"
  | connectionAborted => "ConnectionAborted"
  | brokenPipe => "BrokenPipe"
  | unexpectedEof => "UnexpectedEof"
  | other name => name

def ofName (s : String) : IoKind :=
  if s = "ConnectionReset" then connectionReset
  else if s = "ConnectionAborted" then connectionAborted
  else if s = "BrokenPipe" then brokenPipe
  else if s = "UnexpectedEof" then unexpectedEof
  else other s

def isLoss : IoKind → Bool
  | connectionReset | connectionAborted | brokenPipe | unexpectedEof => true
  | other _ => false

end IoKind

/-- A system error: its kind and its text. -/
structure IoError where
  kind : IoKind
  message : String
  deriving DecidableEq, Repr

/-- A broker's answer to a request to connect. -/
inductive ConnectCode where
  | success
  | refusedProtocolVersion
  | badClientId
  | serviceUnavailable
  | badUserNamePassword
  | notAuthorized
  deriving DecidableEq, Repr

namespace ConnectCode

def ofNat? : Nat → Option ConnectCode
  | 0 => some success
  | 1 => some refusedProtocolVersion
  | 2 => some badClientId
  | 3 => some serviceUnavailable
  | 4 => some badUserNamePassword
  | 5 => some notAuthorized
  | _ => none

def toNat : ConnectCode → Nat
  | success => 0
  | refusedProtocolVersion => 1
  | badClientId => 2
  | serviceUnavailable => 3
  | badUserNamePassword => 4
  | notAuthorized => 5

def name : ConnectCode → String
  | success => "Success"
  | refusedProtocolVersion => "RefusedProtocolVersion"
  | badClientId => "BadClientId"
  | serviceUnavailable => "ServiceUnavailable"
  | badUserNamePassword => "BadUserNamePassword"
  | notAuthorized => "NotAuthorized"

end ConnectCode

/-- What went wrong while a secure channel was set up. -/
inductive TlsFault where
  | io (error : IoError)
  | noValidCert
  | noValidClientCert
  | noValidKey
  /-- Any other, by its text. -/
  | other (text : String)
  deriving DecidableEq, Repr

/-- A breach of the protocol's rules between client and broker. -/
inductive StateFault where
  | ioKind (kind : IoKind)
  | io (error : IoError)
  | invalidState
  | unsolicited (pkid : Nat)
  | awaitPingResp
  | wrongPacket
  | collisionTimeout
  | emptySubscription
  | packetTooLarge (size max : Nat)
  | deserialization (detail : String)
  /-- Any other, by its text. -/
  | other (text : String)
  deriving DecidableEq, Repr

/-- A packet that came where the answer to a connection attempt should have come. -/
inductive StrayPacket where
  | pingReq
  | pingResp
  | disconnect
  /-- The level granted to each subscription; none where it is turned down. -/
  | subAck (pkid : Nat) (granted : List (Option QoS))
  /-- Any other, as it is shown. -/
  | other (text : String)
  deriving DecidableEq, Repr

/-- Why a connection failed or was lost. -/
inductive ConnectionFault where
  | refused (code : ConnectCode)
  | tls (fault : TlsFault)
  | state (fault : StateFault)
  | notConnAck (packet : StrayPacket)
  | requestsDone
  | networkTimeout
  | flushTimeout
  | io (error : IoError)
  deriving DecidableEq, Repr

/-- How a request could not be handed to the client: the client is gone, or its queue is full. -/
inductive RequestFault where
  | gone
  | full
  deriving DecidableEq, Repr

/-- What went wrong in the transport. -/
inductive Fault where
  /-- The client could not be built from configuration and parameters. -/
  | setup (message : String)
  /-- The configuration breaks rules. -/
  | config (problems : List Config.Problem)
  /-- The request could not be handed to the client. -/
  | request (fault : RequestFault)
  /-- The connection failed or was lost. -/
  | connection (fault : ConnectionFault)
  /-- A system error outside the connection. -/
  | io (error : IoError)
  /-- A request came without a connection. -/
  | notConnected
  /-- The connection ended before the request was acknowledged. -/
  | connectionClosed
  /-- The broker turned a subscription down. -/
  | subscriptionRejected (message : String)
  deriving DecidableEq, Repr

/-! ## Wording -/

def TlsFault.message : TlsFault → String
  | io error => "I/O: " ++ error.message
  | noValidCert => "No valid CA certificate provided"
  | noValidClientCert => "No valid certificate for client authentication in chain"
  | noValidKey => "No valid key in chain"
  | other text => text

def StateFault.message : StateFault → String
  | ioKind kind => "Io error: " ++ Text.variant "Kind" kind.name
  | io error =>
    "Io error: " ++
      Text.record "Custom" [("kind", error.kind.name), ("error", Text.quoted error.message)]
  | invalidState => "Invalid state for a given operation"
  | unsolicited pkid => s!"Received unsolicited ack pkid: {pkid}"
  | awaitPingResp => "Last pingreq isn't acked"
  | wrongPacket => "Received a wrong packet while waiting for another packet"
  | collisionTimeout => "Timeout while waiting to resolve collision"
  | emptySubscription => "A Subscribe packet must contain atleast one filter"
  | packetTooLarge size max =>
    s!"Cannot send packet of size '{size}'. It's greater than the broker's maximum packet size of: '{max}'"
  | deserialization detail => "Mqtt serialization/deserialization error: " ++ detail
  | other text => text

def grantShown : Option QoS → String
  | some level => Text.variant "Success" level.shown
  | none => "Failure"

def StrayPacket.shown : StrayPacket → String
  | pingReq => "PingReq"
  | pingResp => "PingResp"
  | disconnect => "Disconnect"
  | subAck pkid granted =>
    Text.variant "SubAck" (Text.record "SubAck"
      [("pkid", toString pkid),
        ("return_codes", "[" ++ ", ".intercalate (granted.map grantShown) ++ "]")])
  | other text => text

def ConnectionFault.message : ConnectionFault → String
  | refused code => "Connection refused, return code: `" ++ code.name ++ "`"
  | tls fault => "TLS: " ++ fault.message
  | state fault => "Mqtt state: " ++ fault.message
  | notConnAck packet => "Expected ConnAck packet, received: " ++ packet.shown
  | requestsDone => "Requests done"
  | networkTimeout => "Network timeout"
  | flushTimeout => "Flush timeout"
  | io error => "I/O: " ++ error.message

namespace Fault

def message : Fault → String
  | setup text => "Client setup error: " ++ text
  | config problems => "Configuration error: " ++ Config.Problem.lines problems
  | request _ => "Client request error: Failed to send mqtt requests to eventloop"
  | connection fault => "Client connection error: " ++ fault.message
  | io error => "IO error: " ++ error.message
  | notConnected => "The client is not currently connected."
  | connectionClosed => "The connection closed before the request was acknowledged."
  | subscriptionRejected text => "Subscription rejected by broker: " ++ text

def name : Fault → String
  | setup _ => "ClientSetup"
  | config _ => "ConfigError"
  | request _ => "ClientRequest"
  | connection _ => "ClientConnection"
  | io _ => "Io"
  | notConnected => "NotConnected"
  | connectionClosed => "ConnectionClosed"
  | subscriptionRejected _ => "SubscriptionRejected"

def connection? : Fault → Option ConnectionFault
  | connection fault => some fault
  | _ => none

end Fault

/-! ## Classification -/

def ConnectionFault.clientFault : ConnectionFault → ClientFault
  | refused code => .ofConnectCode code.toNat
  | tls _ => .ofResultCode 8
  | state _ | notConnAck _ => .ofResultCode 2
  | requestsDone => .ofResultCode 4
  | networkTimeout | flushTimeout => .ofResultCode 7
  | io error => .ofResultCode (if error.kind.isLoss then 7 else 14)

def Fault.clientFault : Fault → ClientFault
  | connection fault => fault.clientFault
  | request .full => .ofResultCode 15
  | request .gone | notConnected => .ofResultCode 4
  | connectionClosed => .ofResultCode 7
  | setup _ | config _ => .ofResultCode 3
  | io _ => .ofResultCode 14
  | subscriptionRejected _ => .ofResultCode 12

end DeviceLink.Transport

namespace DeviceLink.Failure

/-- **The failure reported for a fault of the transport:** the kind and cause of its
classification, with the fault's own text as the message. -/
def ofTransport (fault : Transport.Fault) : Failure :=
  (ofClient fault.clientFault).withMessage fault.message

end DeviceLink.Failure
