import DeviceLink.Operation

/-!
# The session under a stage

A session is the stateful end of one protocol client.  It is asked to start something and answers
at once whether it started; how the thing went is reported later, from whatever thread the session
uses, and the stage takes each report in a job of its own.

* `SessionCall` — what a session is asked to do.
* `Report` — what a session reports later.
* `SessionModel` — a session implementation, as functions on its world.
-/

namespace DeviceLink

/-- Names one session among those that a factory has made. -/
abbrev SessionId := Nat

/-- What a session is asked to do.  The last three are acknowledged later, under the number of the
operation they belong to. -/
inductive SessionCall where
  | connect (password : Option String) (certificate : Option ClientCertificate)
  | reconnect (password : Option String)
  | disconnect
  | publish (id : Nat) (topic : String) (payload : List UInt8)
  | subscribe (id : Nat) (topic : String)
  | unsubscribe (id : Nat) (topic : String)
  deriving DecidableEq, Repr

/-- The number under which a call is acknowledged, if it is. -/
def SessionCall.ackId? : SessionCall → Option Nat
  | publish id _ _ | subscribe id _ | unsubscribe id _ => some id
  | connect _ _ | reconnect _ | disconnect => none

/-- What a session reports. -/
inductive Report where
  /-- The connection is up. -/
  | connected
  /-- The connection attempt failed. -/
  | connectionFailed (cause : Failure)
  /-- The connection is down: wanted, or for a cause. -/
  | disconnected (cause : Option Failure)
  /-- A message has come in. -/
  | message (topic : String) (payload : List UInt8)
  /-- A request has been acknowledged, or can not be any more. -/
  | acknowledged (id : Nat) (outcome : Outcome)
  deriving DecidableEq, Repr

/-- How a call of a session ends. -/
inductive Answer where
  /-- It says whether what was asked for has started. -/
  | returned (outcome : Outcome)
  | panicked (message : String)
  deriving DecidableEq, Repr

/-- A session implementation: how its world answers the factory, the calls and the end of a
session, and what it reports while it does so. -/
structure SessionModel (ω : Type) where
  /-- A new session, or the reason why there is none. -/
  create : ω → ConnectionArgs → Except Failure SessionId × ω
  /-- The next step of a call, with the reports made in it; an answer ends the call.  Between the
  steps of a call others may work on the world. -/
  step : ω → SessionId → SessionCall → Option Answer × List Report × ω
  /-- The end of a session, with the reports made on the way. -/
  release : ω → SessionId → List Report × ω

end DeviceLink
