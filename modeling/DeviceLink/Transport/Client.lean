import DeviceLink.Config.Basic
import DeviceLink.Operation
import DeviceLink.Transport.Fault

/-!
# Building a protocol client

What a protocol client is given before it opens a connection, put together from the settings, the
connection arguments and the credential.

* `ClientAuth` — a client's certificate as bytes.
* `Channel` — how the connection is secured.
* `ClientOptions` — everything a client is given.
* `ClientOptions.build` — the options, or the fault in what they are built from.

The client has preconditions of its own and panics when they are broken; `ClientOptions.panic?`
says when.
-/

namespace DeviceLink.Transport

/-! ## Certificates -/

/-- A client's certificate with its private key, as bytes. -/
structure ClientAuth where
  certificate : List UInt8
  privateKey : List UInt8
  deriving DecidableEq, Repr

def ClientAuth.ofCertificate (c : ClientCertificate) : ClientAuth :=
  ⟨Text.bytes c.certificate, Text.bytes c.privateKey⟩

/-- Shows the length of the certificate, and of the key nothing. -/
def ClientAuth.shown (a : ClientAuth) : String :=
  ClientCertificate.shownAs "ClientAuth" a.certificate.length

/-! ## Options -/

/-- How a connection is secured. -/
inductive Channel where
  /-- Not at all. -/
  | plain
  /-- By the authorities that the system trusts. -/
  | platform
  /-- By the given authorities, the client showing a certificate or not. -/
  | authorities (ca : List UInt8) (auth : Option ClientAuth)
  deriving DecidableEq, Repr

/-- User name and password. -/
structure Login where
  username : String
  password : String
  deriving DecidableEq, Repr

/-- What a protocol client is given. -/
structure ClientOptions where
  clientId : String
  broker : String
  port : UInt16
  /-- In seconds; the client only refuses fractions of a second. -/
  keepAlive : UInt64
  cleanSession : Bool
  inflight : UInt16
  /-- The largest packet in either direction. -/
  maxPacketSize : Nat
  login : Option Login
  channel : Channel
  /-- How many requests the client queues. -/
  queue : Nat
  deriving DecidableEq, Repr

/-- Why no client was built. -/
inductive BuildFault where
  | fault (f : Fault)
  /-- A precondition of the client is broken. -/
  | panic (message : String)
  deriving DecidableEq, Repr

namespace ClientOptions

def defaultMaxPacketSize : Nat := 10240

def defaultQueue : Nat := 10

/-! ## Building -/

/-- A fault in what the options are built from. -/
def setup (message : String) : BuildFault := .fault (.setup message)

/-- The precondition of the client that the options break, if any: a client without a name must
not ask for a session that lasts, and something must be allowed in flight. -/
def panic? (c : TransportConfig) (args : ConnectionArgs) : Option String :=
  if args.clientId = "" ∧ c.cleanSession = false then
    some "Cannot unset clean session when client id is empty"
  else if c.maxInflight = 0 then some "zero in flight is not allowed"
  else none

/-- The authorities that vouch for the broker: those of the arguments before those of the
configured file. -/
def authorities (c : TransportConfig) (files : Config.Files) (args : ConnectionArgs) :
    Except BuildFault (Option (List UInt8)) :=
  match args.caCert, c.caCertPath with
  | some ca, _ => .ok (some (Text.bytes ca))
  | none, none => .ok none
  | none, some path =>
    match Config.readFile files path with
    | .error fault => .error (setup s!"Invalid TLS configuration: {fault.message}")
    | .ok content => .ok (some content)

/-- The channel for the authorities and the certificate there are: a certificate is shown only to
a broker that known authorities vouch for. -/
def secured (ca : Option (List UInt8)) (auth : Option ClientAuth) : Except BuildFault Channel :=
  match ca, auth with
  | some ca, auth => .ok (.authorities ca auth)
  | none, none => .ok .platform
  | none, some _ => .error (setup "a client certificate requires a CA certificate")

def channelFor (c : TransportConfig) (files : Config.Files) (args : ConnectionArgs)
    (auth : Option ClientAuth) : Except BuildFault Channel :=
  if c.tls then
    match authorities c files args with
    | .error fault => .error fault
    | .ok ca => secured ca auth
  else if auth.isSome then .error (setup "a client certificate requires TLS to be enabled")
  else .ok .plain

/-- Without a user name there is no login. -/
def loginFor (args : ConnectionArgs) (password : Option String) : Option Login :=
  if args.username = "" then none else some ⟨args.username, password.getD ""⟩

/-- **The options of a client.**  Nothing is checked here but what a client cannot be built
without. -/
def build (c : TransportConfig) (files : Config.Files) (args : ConnectionArgs)
    (password : Option String) (auth : Option ClientAuth) : Except BuildFault ClientOptions :=
  if args.hostname = "" then .error (setup "hostname must not be empty")
  else
    match panic? c args, channelFor c files args auth with
    | some message, _ => .error (.panic message)
    | none, .error fault => .error fault
    | none, .ok channel => .ok
      { clientId := args.clientId
        broker := args.hostname
        port := c.port
        keepAlive := c.keepAlive
        cleanSession := c.cleanSession
        inflight := c.maxInflight
        maxPacketSize := (c.maxPacketSize.map UInt16.toNat).getD defaultMaxPacketSize
        login := loginFor args password
        channel
        queue := (c.requestChannelCapacity.map UInt8.toNat).getD defaultQueue }

end ClientOptions

end DeviceLink.Transport
