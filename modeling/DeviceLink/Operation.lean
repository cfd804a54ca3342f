import DeviceLink.Failure.Basic

/-!
# Operations and events

An operation is made by the user's code, travels down to the protocol stage and is finished once.
Events travel the other way.

* `Request`, `Operation` — what is asked for, and one request under way.
* `Operation.finish` — the callback and the outcome an operation ends with.
* `Event` — what is reported upwards.

Secrets never show: tokens and private keys are left out of everything that is shown for
debugging.
-/

namespace DeviceLink

/-! ## Requests -/

/-- Where to connect, and as whom. -/
structure ConnectionArgs where
  hostname : String
  username : String
  clientId : String
  /-- The certificate of the authority that vouches for the broker. -/
  caCert : Option String := none
  deriving DecidableEq, Repr

/-- A client's certificate with its private key. -/
structure ClientCertificate where
  certificate : String
  privateKey : String
  deriving DecidableEq, Repr

/-- What a client proves its identity with. -/
inductive Credential where
  /-- A shared access token, sent as the password. -/
  | sasToken (token : String)
  /-- A certificate, presented when the secure channel is set up. -/
  | certificate (cert : ClientCertificate)
  deriving DecidableEq, Repr

def Credential.token? : Credential → Option String
  | sasToken token => some token
  | certificate _ => none

def Credential.certificate? : Credential → Option ClientCertificate
  | sasToken _ => none
  | certificate cert => some cert

def Credential.word : Credential → String
  | sasToken _ => "sas token"
  | certificate _ => "client certificate"

/-- What an operation asks for. -/
inductive Request where
  | setConnectionArgs (args : ConnectionArgs)
  | setCredential (credential : Credential)
  | connect
  | reconnect
  | disconnect
  | publish (topic : String) (payload : List UInt8)
  | subscribe (topic : String)
  | unsubscribe (topic : String)
  /-- Handled above the protocol stage. -/
  | enableFeature (feature : String)
  /-- Handled above the protocol stage. -/
  | disableFeature (feature : String)
  deriving DecidableEq, Repr

def Request.name : Request → String
  | setConnectionArgs _ => "SetConnectionArgs"
  | setCredential _ => "SetCredential"
  | connect => "Connect"
  | reconnect => "Reconnect"
  | disconnect => "Disconnect"
  | publish _ _ => "Publish"
  | subscribe _ => "Subscribe"
  | unsubscribe _ => "Unsubscribe"
  | enableFeature _ => "EnableFeature"
  | disableFeature _ => "DisableFeature"

/-! ## Operations -/

/-- One request under way.  `κ` is the type of callbacks. -/
structure Operation (κ : Type) where
  /-- Unique among the operations of a process. -/
  id : Nat
  request : Request
  error : Option Failure := none
  callback : Option κ := none
  deriving DecidableEq, Repr

namespace Operation

variable {κ : Type}

def name (op : Operation κ) : String := op.request.name

/-- Records a failure; a later one replaces an earlier one. -/
def fail (op : Operation κ) (f : Failure) : Operation κ := { op with error := some f }

def outcome (op : Operation κ) : Outcome :=
  match op.error with
  | some f => .error f
  | none => .ok ()

def finish (op : Operation κ) : Option κ × Outcome := (op.callback, op.outcome)

end Operation

/-! ## Events -/

/-- What is reported upwards. -/
inductive Event where
  | incomingMessage (topic : String) (payload : List UInt8)
  deriving DecidableEq, Repr

def Event.name : Event → String
  | incomingMessage _ _ => "IncomingMessage"

/-! ## Shown for debugging -/

/-- A certificate shows its length, and its key not at all. -/
def ClientCertificate.shownAs (name : String) (size : Nat) : String :=
  Text.record name
    [("certificate", s!"{size} bytes"), ("private_key", Text.quoted "<redacted>")]

def ClientCertificate.shown (c : ClientCertificate) : String :=
  ClientCertificate.shownAs "ClientCertificate" c.certificate.utf8ByteSize

def Credential.shown : Credential → String
  | sasToken _ => "SasToken(<redacted>)"
  | certificate cert => Text.variant "Certificate" cert.shown

def ConnectionArgs.shown (args : ConnectionArgs) : String :=
  Text.record "ConnectionArgs"
    [("hostname", Text.quoted args.hostname), ("username", Text.quoted args.username),
      ("client_id", Text.quoted args.clientId),
      ("ca_cert", Text.optional (args.caCert.map Text.quoted))]

def Request.shown (r : Request) : String :=
  match r with
  | setConnectionArgs args => Text.variant r.name args.shown
  | setCredential credential => Text.variant r.name credential.shown
  | connect | reconnect | disconnect => r.name
  | publish topic payload =>
    Text.record r.name [("topic", Text.quoted topic), ("payload", Text.quotedBytes payload)]
  | subscribe topic | unsubscribe topic => Text.record r.name [("topic", Text.quoted topic)]
  | enableFeature feature | disableFeature feature => Text.variant r.name (Text.quoted feature)

def Operation.shown {κ : Type} (op : Operation κ) : String :=
  Text.record "Operation"
    [("id", toString op.id), ("kind", op.request.shown),
      ("error", Text.optional (op.error.map Failure.shown)),
      ("callback", Text.truth op.callback.isSome)]

end DeviceLink
