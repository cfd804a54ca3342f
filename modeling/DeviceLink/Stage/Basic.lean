import DeviceLink.Chain
import DeviceLink.Log
import DeviceLink.Session

/-!
# The protocol stage

The innermost stage owns the session and its connection.  At most one operation that makes a
connection and one that ends it are under way; a new one of either class supersedes both.
Publishing and subscribing are not limited: each such operation waits for its acknowledgement.

The stage's state lies in a cell that only one piece of code may be inside at a time.  The stage
is outside of it whenever it hands something to the chain above, so the chain may come back; it is
inside while it calls the session, so a session may not.

* `Stage` — the state.
* `Ask` — what the stage hands to its surroundings.
* `Frame` — what it does when they return.
* `Turn` — one stretch of the stage's own work.
-/

namespace DeviceLink

/-- The state of a protocol stage.  `κ` is the type of the operations' callbacks. -/
structure Stage (κ : Type) where
  /-- The name that starts its log lines. -/
  name : String
  args : Option ConnectionArgs := none
  credential : Option Credential := none
  session : Option SessionId := none
  /-- The operation that waits for the connection to come up. -/
  activeConnect : Option (Operation κ) := none
  /-- The operation that waits for the connection to go down. -/
  activeDisconnect : Option (Operation κ) := none
  /-- The operations that wait for an acknowledgement, each under its number. -/
  awaitingAck : List (Nat × Operation κ) := []
  /-- Somebody is inside the cell. -/
  entered : Bool := false
  deriving DecidableEq, Repr

/-- One of the two places for an operation on the connection. -/
inductive Slot where
  | connect
  | disconnect
  deriving DecidableEq, Repr

/-- What an operation wants of the connection. -/
inductive Aim where
  | connect
  | reconnect
  | disconnect
  deriving DecidableEq, Repr

def Aim.slot : Aim → Slot
  | connect | reconnect => .connect
  | disconnect => .disconnect

def Aim.word : Aim → String
  | connect => "connecting"
  | reconnect => "reconnecting"
  | disconnect => "disconnecting"

/-- What the stage hands to its surroundings; it goes on when they return. -/
inductive Ask (κ : Type) where
  /-- The chain is called. -/
  | chain (c : ChainCall κ)
  /-- A session is wanted. -/
  | create (args : ConnectionArgs)
  | call (session : SessionId) (c : SessionCall)
  /-- A session is not needed any more. -/
  | release (session : SessionId)
  deriving DecidableEq, Repr

/-- What the stage has left to do when its surroundings return. -/
inductive Frame (κ : Type) where
  /-- Nothing. -/
  | last
  /-- Go on with what was superseded, then start the operation that did it. -/
  | superseding (left : List (Operation κ)) (aim : Aim) (op : Operation κ)
  /-- Keep the session that was wanted for an operation. -/
  | creating (op : Operation κ) (args : ConnectionArgs)
  /-- The cell is held: the session before the new one goes. -/
  | replacing (op : Operation κ)
  /-- The cell is held: the session starts what the operation in a slot wants. -/
  | starting (slot : Slot)
  /-- The cell is held: the session starts a request. -/
  | requesting (id : Nat)
  /-- Everybody knows that the connection is up. -/
  | announced
  /-- Everybody knows that the connection is down. -/
  | retired (cause : Option Failure)
  /-- Cancel what is left, then let the session go. -/
  | abandoning (left : List (Operation κ)) (session : Option SessionId)
  deriving DecidableEq, Repr

/-- What can be seen of a stage at work. -/
inductive Trace (κ : Type) where
  | log (line : LogLine)
  /-- A failure nobody waits for. -/
  | unhandled (f : Failure)
  /-- Something is handed to the surroundings. -/
  | ask (a : Ask κ)
  /-- A session goes in a panic. -/
  | gone (session : SessionId)
  | panic (message : String)
  deriving DecidableEq, Repr

/-- How a stretch of work ends. -/
inductive Next (κ : Type) where
  | done
  | ask (a : Ask κ) (frame : Frame κ)
  | panic (message : String)
  deriving DecidableEq, Repr

/-- One stretch of the stage's own work: the state it leaves, its traces in order, its end. -/
structure Turn (κ : Type) where
  stage : Stage κ
  traces : List (Trace κ) := []
  next : Next κ := .done
  deriving DecidableEq, Repr

namespace Frame

variable {κ : Type}

/-- The stage is inside its cell while the surroundings work. -/
def holdsCell : Frame κ → Bool
  | replacing _ | starting _ | requesting _ => true
  | last | superseding _ _ _ | creating _ _ | announced | retired _ | abandoning _ _ => false

def session? : Frame κ → Option SessionId
  | abandoning _ session => session
  | last | superseding _ _ _ | creating _ _ | replacing _ | starting _ | requesting _ | announced
  | retired _ => none

end Frame

def Ask.operations {κ : Type} : Ask κ → List (Operation κ)
  | chain c => c.operation?.toList
  | create _ | call _ _ | release _ => []

/-- The operations that the stage still has in hand. -/
def Frame.operations {κ : Type} : Frame κ → List (Operation κ)
  | superseding left _ op => left ++ [op]
  | creating op _ | replacing op => [op]
  | abandoning left _ => left
  | last | starting _ | requesting _ | announced | retired _ => []

namespace Turn

variable {κ : Type}

/-- The same stretch with traces of before. -/
def after (traces : List (Trace κ)) (t : Turn κ) : Turn κ :=
  { t with traces := traces ++ t.traces }

def logging (line : LogLine) (t : Turn κ) : Turn κ := t.after [.log line]

end Turn

namespace Stage

variable {κ : Type}

def new (name : String) : Stage κ := { name }

def about (s : Stage κ) (op : Operation κ) (text : String) : String :=
  s!"{s.name}({op.name}): {text}"

def slot (s : Stage κ) : Slot → Option (Operation κ)
  | .connect => s.activeConnect
  | .disconnect => s.activeDisconnect

def setSlot (s : Stage κ) (slot : Slot) (op : Option (Operation κ)) : Stage κ :=
  match slot with
  | .connect => { s with activeConnect := op }
  | .disconnect => { s with activeDisconnect := op }

def awaiting? (s : Stage κ) (id : Nat) : Option (Operation κ) := s.awaitingAck.lookup id

/-- Nothing waits under a number any more. -/
def forget (s : Stage κ) (id : Nat) : Stage κ :=
  { s with awaitingAck := s.awaitingAck.filter (·.1 ≠ id) }

/-- An operation waits under its number, in the place of whatever did. -/
def await (s : Stage κ) (op : Operation κ) : Stage κ :=
  { s with awaitingAck := (s.forget op.id).awaitingAck ++ [(op.id, op)] }

def token? (s : Stage κ) : Option String := s.credential.bind Credential.token?

def certificate? (s : Stage κ) : Option ClientCertificate :=
  s.credential.bind Credential.certificate?

def callFor (s : Stage κ) : Aim → SessionCall
  | .connect => .connect s.token? s.certificate?
  | .reconnect => .reconnect s.token?
  | .disconnect => .disconnect

end Stage

end DeviceLink
