import DeviceLink.Session
import DeviceLink.Transport.Basic

/-!
# Sessions over the transport

Each session has a transport of its own.  What its drivers notice, and what handlers are told,
becomes a report to the stage; every fault becomes a failure on the way.

* `Transports` — the world of these sessions.
* `Transports.model` — the sessions as the stage sees them.
* `Transports.drive` — a driver has its turn.
-/

namespace DeviceLink

open Transport

/-! ## Reports -/

def Transport.Notice.report : Notice → Report
  | connected => .connected
  | connectionFailed f => .connectionFailed (.ofTransport f)
  | disconnected cause => .disconnected (cause.map Failure.ofTransport)
  | message topic payload => .message topic payload

/-- What the stage is told of an acknowledgement; handlers are the numbers of operations. -/
def Transport.acknowledgement (t : Told Nat) : Report :=
  .acknowledged t.1 (t.2.mapError Failure.ofTransport)

def Transport.Effect.report : Effect Nat → Report
  | notice n => n.report
  | told t => acknowledgement t

/-! ## The world of sessions -/

/-- All sessions over transports, and the call that is under way. -/
structure Transports where
  config : TransportConfig
  files : Config.Files
  /-- A transport for each session. -/
  sessions : List (Transport Nat) := []
  /-- What the call under way does next. -/
  underway : Option (Phase Nat) := none

namespace Transports

/-- Sessions need a runtime that drives their connections. -/
def noRuntime : Failure :=
  (Failure.pipeline "the MQTT session factory must be created inside a tokio runtime").withCause
    .noRuntime

def new (config : TransportConfig) (files : Config.Files) (runtime : Bool) :
    Except Failure Transports :=
  if runtime then .ok { config, files } else .error noRuntime

def callOf : SessionCall → Call Nat
  | .connect password certificate => .connect password (certificate.map ClientAuth.ofCertificate)
  | .reconnect password => .reconnect password
  | .disconnect => .disconnect
  | .publish id topic payload => .publish topic payload id
  | .subscribe id topic => .subscribe topic id
  | .unsubscribe id topic => .unsubscribe topic id

def answerOf : CallResult → Answer
  | .ok () => .returned (.ok ())
  | .error (.fault f) => .returned (.error (.ofTransport f))
  | .error (.panic message) => .panicked message

def create (w : Transports) (args : ConnectionArgs) : Except Failure SessionId × Transports :=
  (.ok w.sessions.length, { w with sessions := w.sessions ++ [{ config := w.config, args }] })

def set (w : Transports) (session : SessionId) (t : Transport Nat) : Transports :=
  { w with sessions := w.sessions.set session t }

/-- A session that is not there is not connected. -/
def missing : Answer := .returned (.error (.ofTransport .notConnected))

/-- The next step of a call: the phase that is due, or the first. -/
def step (w : Transports) (session : SessionId) (c : SessionCall) :
    Option Answer × List Report × Transports :=
  match w.sessions[session]? with
  | none => (some missing, [], w)
  | some t =>
    let (t, phase) := match w.underway with
      | some phase => (t, phase)
      | none => t.begin (callOf c)
    let (t, told, progress) := t.step w.files phase
    let w := w.set session t
    match progress with
    | .more phase => (none, told.map acknowledgement, { w with underway := some phase })
    | .done r => (some (answerOf r), told.map acknowledgement, { w with underway := none })

/-- The end of a session: its connection is given up. -/
def release (w : Transports) (session : SessionId) : List Report × Transports :=
  match w.sessions[session]? with
  | none => ([], w)
  | some t =>
    let (t, told, _) := t.finish w.files .quit
    (told.map acknowledgement, w.set session t)

def model : SessionModel Transports where
  create := create
  step := step
  release := release

/-- **A driver has its turn**, if it is its turn. -/
def drive (w : Transports) (session : SessionId) (n : Nat) (turn : DriverTurn) :
    Option (List Report × Transports) :=
  match w.sessions[session]? with
  | none => none
  | some t => (t.drive n turn).map fun (t, effects) => (effects.map Effect.report, w.set session t)

end Transports

end DeviceLink
