import DeviceLink.Config.Basic
import DeviceLink.Transport.Acks

/-!
# One connection and its driver

A connection is shared by two parties: the transport that started it, which raises flags and hands
requests to the protocol client, and its driver, which takes the client's events one by one until
the connection ends.  Neither waits for the other, so everything a driver does is cut into steps
that touch what is shared at most once; between any two of them the transport may have its turn.

* `Connection` — what the two share, and how far the driver has come.
* `Connection.wake` — the driver, waiting, sees that it is cancelled, or takes an event.
* `Connection.advance` — the driver, not waiting, does its next step.

Whether a cancelled driver looks at the cancellation or at one more event is open: `wake` allows
both.
-/

namespace DeviceLink.Transport

/-! ## Requests and events -/

/-- A request in the client's hands. -/
inductive ClientRequest where
  | publish (topic : String) (level : QoS) (payload : List UInt8)
  | subscribe (topic : String) (level : QoS)
  | unsubscribe (topic : String)
  | disconnect
  deriving DecidableEq, Repr

/-- A packet from the broker, as far as a connection looks at it. -/
inductive Packet where
  | connAck (code : ConnectCode)
  | publish (topic : String) (payload : List UInt8)
  | pubAck (pkid : Nat)
  | pubComp (pkid : Nat)
  /-- The level granted to each subscription; none where it is turned down. -/
  | subAck (pkid : Nat) (granted : List (Option QoS))
  | unsubAck (pkid : Nat)
  | disconnect
  | other
  deriving DecidableEq, Repr

/-- A packet that leaves, as far as a connection looks at it. -/
inductive Departure where
  | request (kind : AckKind) (pkid : Nat)
  | disconnect
  | other
  deriving DecidableEq, Repr

/-- What the client reports. -/
inductive ClientEvent where
  | arrived (p : Packet)
  | left (d : Departure)
  /-- The connection failed or was lost; the client is done. -/
  | failed (f : ConnectionFault)
  deriving DecidableEq, Repr

/-- What a driver tells the owner of the transport. -/
inductive Notice where
  /-- The broker has accepted the connection. -/
  | connected
  /-- The attempt ended before it was accepted. -/
  | connectionFailed (f : Fault)
  /-- The connection ended: as wanted, or for a cause. -/
  | disconnected (cause : Option Fault)
  | message (topic : String) (payload : List UInt8)
  deriving DecidableEq, Repr

/-- What others learn from a step: a notice, or what a handler is told. -/
inductive Effect (η : Type) where
  | notice (n : Notice)
  | told (t : Told η)

/-! ## Connections -/

/-- Why a driver comes to its end. -/
inductive Ending where
  /-- It was cancelled, while a disconnect was wanted or not. -/
  | abandoned (wanted : Bool)
  /-- The client has said goodbye to the broker. -/
  | left
  | failed (f : ConnectionFault)
  deriving DecidableEq, Repr

/-- How far a driver has come. -/
inductive Driver where
  /-- It waits for an event or its cancellation. -/
  | waiting
  /-- It has taken an event and not looked at it. -/
  | holding (e : ClientEvent)
  /-- The connection is marked as up, and nobody is told yet. -/
  | announcing
  /-- It has seen its cancellation. -/
  | cancelling
  /-- It is about to mark the connection as ended. -/
  | ending (why : Ending)
  /-- It is about to mark the connection as down. -/
  | lowering (why : Ending)
  /-- It is about to tell the handlers that are left; the connection was up until now or not. -/
  | draining (why : Ending) (wasUp : Bool)
  /-- The attempt failed; it is about to see whether a disconnect is wanted. -/
  | judging (f : ConnectionFault)
  /-- It has made up its mind about the last notice, if there is to be one. -/
  | closing (last : Option Notice)
  | returned
  deriving DecidableEq, Repr

/-- A connection.  The type of the handlers is `η`. -/
structure Connection (η : Type) where
  /-- The driver is told to stop. -/
  cancelled : Bool := false
  /-- The broker has accepted the connection, and it has not ended. -/
  up : Bool := false
  /-- Somebody wants the connection to end and will be told. -/
  wanted : Bool := false
  /-- The driver has come to its end. -/
  ended : Bool := false
  /-- The client has room for requests; when it has is the client's affair. -/
  room : Bool := true
  /-- The requests that the client has taken, oldest first. -/
  taken : List ClientRequest := []
  acks : AckTracker η := {}
  driver : Driver := .waiting

namespace Connection

variable {η : Type}

/-- The client takes a request: only as long as there is a driver, and if it has room. -/
def takes (c : Connection η) : Bool := c.room && c.driver != .returned

def take (c : Connection η) (r : ClientRequest) : Connection η := { c with taken := c.taken ++ [r] }

/-- Changes the handlers and says what those are told that this calls. -/
def withAcks (c : Connection η) (r : AckTracker η × List (Told η)) (driver : Driver) :
    Connection η × List (Effect η) :=
  ({ c with acks := r.1, driver }, r.2.map Effect.told)

/-! ## The driver -/

/-- What lets a waiting driver go on. -/
inductive Wakeup where
  | cancellation
  | event (e : ClientEvent)
  deriving DecidableEq, Repr

/-- **A waiting driver goes on**; it sees a cancellation only if there is one. -/
def wake (c : Connection η) (w : Wakeup) : Option (Connection η) :=
  match c.driver, w with
  | .waiting, .event e => some { c with driver := .holding e }
  | .waiting, .cancellation =>
    if c.cancelled then some { c with driver := .cancelling } else none
  | _, _ => none

/-- How a subscription is answered: one that is turned down spoils them all. -/
def granted (pkid : Nat) (levels : List (Option QoS)) : Except Fault Unit :=
  if levels.contains none then .error (.subscriptionRejected s!"packet id {pkid}") else .ok ()

def arrive (c : Connection η) : Packet → Connection η × List (Effect η)
  | .connAck .success => ({ c with up := true, driver := .announcing }, [])
  | .publish topic payload => ({ c with driver := .waiting }, [.notice (.message topic payload)])
  | .pubAck pkid | .pubComp pkid => c.withAcks (c.acks.acknowledged .publish pkid (.ok ())) .waiting
  | .subAck pkid levels =>
    c.withAcks (c.acks.acknowledged .subscribe pkid (granted pkid levels)) .waiting
  | .unsubAck pkid => c.withAcks (c.acks.acknowledged .unsubscribe pkid (.ok ())) .waiting
  | .connAck _ | .disconnect | .other => ({ c with driver := .waiting }, [])

def look (c : Connection η) : ClientEvent → Connection η × List (Effect η)
  | .arrived p => c.arrive p
  | .left (.request kind pkid) => c.withAcks (c.acks.sent kind pkid) .waiting
  | .left .disconnect => ({ c with driver := .ending .left }, [])
  | .left .other => ({ c with driver := .waiting }, [])
  | .failed f => ({ c with driver := .ending (.failed f) }, [])

/-- What comes after the handlers have been told: the last notice is known, unless the attempt
failed. -/
def afterDraining (wasUp : Bool) : Ending → Driver
  | .abandoned true => .closing (some (.disconnected none))
  | .abandoned false => .closing none
  | .left => .closing (some (.disconnected none))
  | .failed f =>
    if wasUp then .closing (some (.disconnected (some (.connection f)))) else .judging f

def lastNotice (wanted : Bool) (f : ConnectionFault) : Notice :=
  if wanted then .disconnected none else .connectionFailed (.connection f)

/-- **The driver's next step**, if it does not wait, with what others learn from it. -/
def advance (c : Connection η) : Option (Connection η × List (Effect η)) :=
  match c.driver with
  | .waiting | .returned => none
  | .holding e => some (c.look e)
  | .announcing => some ({ c with driver := .waiting }, [.notice .connected])
  | .cancelling => some ({ c with wanted := false, driver := .ending (.abandoned c.wanted) }, [])
  | .ending why => some ({ c with ended := true, driver := .lowering why }, [])
  | .lowering why => some ({ c with up := false, driver := .draining why c.up }, [])
  | .draining why wasUp => some (c.withAcks c.acks.failAll (afterDraining wasUp why))
  | .judging f => some ({ c with driver := .closing (some (lastNotice c.wanted f)) }, [])
  | .closing last => some ({ c with driver := .returned }, last.toList.map Effect.notice)

end Connection

/-- A turn of a driver: it goes on with what it waits for, or does its next step. -/
inductive DriverTurn where
  | wake (w : Connection.Wakeup)
  | advance
  deriving DecidableEq, Repr

/-- **A driver has a turn**, if it is its turn. -/
def Connection.drive {η : Type} (c : Connection η) :
    DriverTurn → Option (Connection η × List (Effect η))
  | .wake w => (c.wake w).map fun c => (c, [])
  | .advance => c.advance

end DeviceLink.Transport
