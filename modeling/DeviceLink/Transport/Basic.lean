import DeviceLink.Config.Check
import DeviceLink.Transport.Client
import DeviceLink.Transport.Connection

/-!
# The transport

A transport starts connections for one session, one after the other, and hands requests to the
current one.  A connection that has been replaced is not heard of by the transport again, but its
driver may still be on its way to the end.

One call is under way at a time.  What a call does is cut into phases that touch what is shared
with a driver at most once; drivers may have their turn between any two of them.

* `Transport` — settings, certificate, connections.
* `Phase`, `Transport.begin`, `Transport.step` — a call of the transport, phase by phase.
* `Transport.finish` — a call with no driver's turn in between.
* `Transport.drive` — a turn of a connection's driver.
-/

namespace DeviceLink

namespace Transport

/-- What a transport is asked to do. -/
inductive Call (η : Type) where
  | connect (password : Option String) (auth : Option ClientAuth)
  /-- Connects again with the certificate of before. -/
  | reconnect (password : Option String)
  | disconnect
  | publish (topic : String) (payload : List UInt8) (handler : η)
  | subscribe (topic : String) (handler : η)
  | unsubscribe (topic : String) (handler : η)
  /-- The transport goes. -/
  | quit
  deriving DecidableEq, Repr

/-- What follows when the connection of before has been given up. -/
inductive Sequel where
  | start (password : Option String)
  | nothing
  deriving DecidableEq, Repr

/-- A request with the handler of its acknowledgement. -/
structure Tracked (η : Type) where
  kind : AckKind
  request : ClientRequest
  handler : η
  deriving DecidableEq, Repr

/-- What a call is about to do; `n` is the number of a connection. -/
inductive Phase (η : Type) where
  /-- Take the current connection's place, if there is one. -/
  | replace (next : Sequel)
  /-- Nobody wants to be told of the end of the connection that is given up. -/
  | silence (n : Nat) (next : Sequel)
  | cancel (n : Nat) (next : Sequel)
  /-- Tell the handlers of the connection that is given up. -/
  | drain (n : Nat) (next : Sequel)
  | start (password : Option String)
  /-- Look whether the driver has come to its end, for a disconnect. -/
  | beforeDisconnect
  /-- The end of the connection is wanted. -/
  | want (n : Nat)
  /-- Look whether the broker has accepted the connection. -/
  | wanted (n : Nat)
  /-- Give up an attempt. -/
  | giveUp (n : Nat)
  /-- Hand the client a disconnect. -/
  | disconnect (n : Nat)
  /-- The client has not taken it: nothing is wanted. -/
  | unwant (n : Nat)
  /-- Look whether the driver has come to its end, for a request. -/
  | beforeRequest (r : Tracked η)
  /-- Look whether the broker has accepted the connection. -/
  | accepted (n : Nat) (r : Tracked η)
  /-- Register the handler and hand the request to the client, both under one lock. -/
  | request (n : Nat) (r : Tracked η)
  deriving DecidableEq, Repr

abbrev CallResult := Except BuildFault Unit

/-- What comes after a phase. -/
inductive Progress (η : Type) where
  | more (p : Phase η)
  | done (r : CallResult)
  deriving Repr

end Transport

open Transport

/-- A transport.  The type of the handlers is `η`. -/
structure Transport (η : Type) where
  config : TransportConfig
  args : ConnectionArgs
  /-- The certificate of the last connect. -/
  auth : Option ClientAuth := none
  /-- Every connection that was started, oldest first. -/
  connections : List (Connection η) := []
  /-- The number of the current connection. -/
  current : Option Nat := none

namespace Transport

variable {η : Type}

def connection? (t : Transport η) : Option (Connection η) :=
  t.current.bind fun n => t.connections[n]?

/-- The broker has accepted the current connection, and it has not ended. -/
def isConnected (t : Transport η) : Bool := t.connection?.any (·.up)

def modify (t : Transport η) (n : Nat) (f : Connection η → Connection η) : Transport η :=
  { t with connections := t.connections.modify n f }

/-- The current connection's number, unless its driver has come to its end. -/
def live? (t : Transport η) : Option Nat :=
  t.current.filter fun n => (t.connections[n]?).any fun c => !c.ended

/-! ## Calls, phase by phase -/

def begin (t : Transport η) : Call η → Transport η × Phase η
  | .connect password auth => ({ t with auth }, .replace (.start password))
  | .reconnect password => (t, .replace (.start password))
  | .quit => (t, .replace .nothing)
  | .disconnect => (t, .beforeDisconnect)
  | .publish topic payload handler =>
    (t, .beforeRequest ⟨.publish, .publish topic t.config.level payload, handler⟩)
  | .subscribe topic handler =>
    (t, .beforeRequest ⟨.subscribe, .subscribe topic t.config.level, handler⟩)
  | .unsubscribe topic handler => (t, .beforeRequest ⟨.unsubscribe, .unsubscribe topic, handler⟩)

/-- What follows the end of the connection of before. -/
def Sequel.progress : Sequel → Progress η
  | start password => .more (.start password)
  | nothing => .done (.ok ())

def refused (f : Fault) : Progress η := .done (.error (.fault f))

/-- Starts a connection with a driver of its own, if the settings keep the rules and a client can
be built. -/
def start (t : Transport η) (files : Config.Files) (password : Option String) :
    Transport η × CallResult :=
  match t.config.problems files with
  | [] =>
    match ClientOptions.build t.config files t.args password t.auth with
    | .error fault => (t, .error fault)
    | .ok _ =>
      ({ t with connections := t.connections ++ [{}], current := some t.connections.length },
        .ok ())
  | problems => (t, .error (.fault (.config problems)))

/-- A request that the client does not take leaves no handler behind. -/
def submit (c : Connection η) (r : Tracked η) : Connection η × Progress η :=
  let c := { c with acks := c.acks.enqueue r.kind r.handler }
  if c.takes then (c.take r.request, .done (.ok ()))
  else ({ c with acks := (c.acks.withdrawLast r.kind).2 }, refused (.request .full))

/-- **One phase of a call**, with what handlers are told. -/
def step (t : Transport η) (files : Config.Files) :
    Phase η → Transport η × List (Told η) × Progress η
  | .replace next =>
    match t.current with
    | none => (t, [], next.progress)
    | some n => ({ t with current := none }, [], .more (.silence n next))
  | .silence n next => (t.modify n ({ · with wanted := false }), [], .more (.cancel n next))
  | .cancel n next => (t.modify n ({ · with cancelled := true }), [], .more (.drain n next))
  | .drain n next =>
    match t.connections[n]? with
    | none => (t, [], next.progress)
    | some c =>
      (t.modify n ({ · with acks := c.acks.failAll.1 }), c.acks.failAll.2, next.progress)
  | .start password =>
    let (t, result) := t.start files password
    (t, [], .done result)
  | .beforeDisconnect =>
    match t.live? with
    | none => (t, [], refused .notConnected)
    | some n => (t, [], .more (.want n))
  | .want n => (t.modify n ({ · with wanted := true }), [], .more (.wanted n))
  | .wanted n =>
    (t, [], .more (if (t.connections[n]?).any (·.up) then .disconnect n else .giveUp n))
  | .giveUp n => (t.modify n ({ · with cancelled := true }), [], .done (.ok ()))
  | .disconnect n =>
    if (t.connections[n]?).any (·.takes) then
      (t.modify n (·.take .disconnect), [], .done (.ok ()))
    else (t, [], .more (.unwant n))
  | .unwant n => (t.modify n ({ · with wanted := false }), [], refused (.request .full))
  | .beforeRequest r =>
    match t.live? with
    | none => (t, [], refused .notConnected)
    | some n => (t, [], .more (.accepted n r))
  | .accepted n r =>
    (t, [], if (t.connections[n]?).any (·.up) then .more (.request n r) else refused .notConnected)
  | .request n r =>
    match t.connections[n]? with
    | none => (t, [], refused .notConnected)
    | some c =>
      let (c, progress) := submit c r
      (t.modify n fun _ => c, [], progress)

/-- How many phases a call has left, at most. -/
def Phase.left : Phase η → Nat
  | replace _ => 5
  | silence _ _ => 4
  | cancel _ _ => 3
  | drain _ _ => 2
  | start _ => 1
  | beforeDisconnect => 5
  | want _ => 4
  | wanted _ => 3
  | disconnect _ => 2
  | giveUp _ | unwant _ => 1
  | beforeRequest _ => 3
  | accepted _ _ => 2
  | request _ _ => 1

/-- A number of phases without a driver's turn. -/
def steps (t : Transport η) (files : Config.Files) (p : Phase η) :
    (count : Nat) → Transport η × List (Told η) × Progress η
  | 0 => (t, [], .more p)
  | count + 1 =>
    match t.step files p with
    | (t, told, .done r) => (t, told, .done r)
    | (t, told, .more p) =>
      let (t, more, progress) := t.steps files p count
      (t, told ++ more, progress)

/-- All that can follow a given up connection is the start of another. -/
theorem left_of_progress {next : Sequel} {q : Phase η} (h : next.progress = .more q) :
    q.left = 1 := by
  cases next with
  | start password => cases h; rfl
  | nothing => cases h

/-- Every phase brings a call nearer to its end. -/
theorem left_step {t t' : Transport η} {files : Config.Files} {p q : Phase η}
    {told : List (Told η)} (h : t.step files p = (t', told, .more q)) : q.left < p.left := by
  cases p <;> grind [step, left_of_progress, refused, submit, Phase.left]

/-- A call is over after as many phases as it has left. -/
theorem steps_left (t : Transport η) (files : Config.Files) (p : Phase η) :
    ∃ t' told r, t.steps files p p.left = (t', told, .done r) := by
  suffices h : ∀ count, p.left ≤ count → ∃ t' told r, t.steps files p count = (t', told, .done r)
    from h _ (Nat.le_refl _)
  intro count
  induction count generalizing t p with
  | zero => intro h; cases p <;> simp [Phase.left] at h
  | succ count ih =>
    intro h
    rcases hs : t.step files p with ⟨t', told, _ | r⟩
    · rename_i q
      obtain ⟨t'', more, r, hr⟩ := ih t' q (by have := left_step hs; omega)
      exact ⟨t'', told ++ more, r, by simp [steps, hs, hr]⟩
    · exact ⟨t', told, r, by simp [steps, hs]⟩

/-- What a call has come to; one that is not over has gone well so far. -/
def Progress.result : Progress η → CallResult
  | more _ => .ok ()
  | done r => r

/-- **A whole call** without a driver's turn in between. -/
def finish (t : Transport η) (files : Config.Files) (c : Call η) :
    Transport η × List (Told η) × CallResult :=
  let (t, p) := t.begin c
  let (t, told, progress) := t.steps files p p.left
  (t, told, progress.result)

/-! ## Drivers -/

/-- **The driver of a connection has a turn**, if it is its turn. -/
def drive (t : Transport η) (n : Nat) (turn : DriverTurn) :
    Option (Transport η × List (Effect η)) :=
  match t.connections[n]? with
  | none => none
  | some c => (c.drive turn).map fun (c, effects) => (t.modify n fun _ => c, effects)

end Transport

end DeviceLink
