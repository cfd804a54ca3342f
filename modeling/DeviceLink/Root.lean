import DeviceLink.Chain
import DeviceLink.Log
import DeviceLink.Unhandled

/-!
# The top of the chain

The root takes what the stages hand upwards.  Callbacks and event handlers are the user's code:
they are queued for the callback context and never run on the spot.  Connectivity is published to
whoever watches.

* `Root` — the published state.
* `UserCall` — a call of the user's code.
* `Root.receive` — one call of the chain.
-/

namespace DeviceLink

/-- Connectivity as it is published. -/
inductive ConnectionState where
  | disconnected
  | connected
  deriving DecidableEq, Repr

def ConnectionState.shown : ConnectionState → String
  | disconnected => "Disconnected"
  | connected => "Connected"

/-- A call of the user's code, with what it is given. -/
inductive UserCall (κ : Type) where
  /-- The callback of an operation, known by its number and its name, is told the outcome. -/
  | completion (id : Nat) (name : String) (callback : κ) (outcome : Outcome)
  /-- The handler of events is told of one. -/
  | event (e : Event)
  deriving DecidableEq, Repr

namespace UserCall

variable {κ : Type}

def callback? : UserCall κ → Option κ
  | completion _ _ callback _ => some callback
  | event _ => none

/-- The name of the code in the report of a panic. -/
def what : UserCall κ → String
  | completion id name _ _ => s!"completion callback of {name}[{id}]"
  | event e => s!"{e.name} event handler"

def panicked (c : UserCall κ) (message : String) : Failure :=
  .pipeline s!"{c.what} panicked: {message}"

end UserCall

/-- The top of the chain. -/
structure Root where
  /-- There is an event handler. -/
  listens : Bool
  state : ConnectionState := .disconnected
  /-- How often a state was published, changed or not. -/
  published : Nat := 0
  deriving DecidableEq, Repr

/-- What the root causes. -/
inductive RootEffect (κ : Type) where
  | log (line : LogLine)
  /-- A failure nobody waits for. -/
  | unhandled (f : Failure)
  /-- The user's code is to be called. -/
  | user (c : UserCall κ)
  deriving DecidableEq, Repr

namespace Root

variable {κ : Type}

def completedLine (op : Operation κ) : LogLine :=
  match op.outcome with
  | .ok () => .debug s!"{op.name}[{op.id}]: completed"
  | .error f => .debug s!"{op.name}[{op.id}]: completed with error: {f.display}"

/-- An operation is over: its callback is told, or, without one, a failure is reported. -/
def complete (op : Operation κ) : List (RootEffect κ) :=
  .log (completedLine op) ::
    match op.callback, op.outcome with
    | some callback, outcome => [.user (.completion op.id op.name callback outcome)]
    | none, .error f => [.unhandled f]
    | none, .ok () => []

def notHandled (op : Operation κ) : Failure :=
  .pipeline s!"{op.name} not handled by any stage in the pipeline"

/-- An operation that no stage handles is over, whatever failure it carries. -/
def pass (op : Operation κ) : List (RootEffect κ) :=
  .log (.warn s!"{op.name}[{op.id}]: reached the end of the pipeline unhandled") ::
    complete (op.fail (notHandled op))

def event (r : Root) (e : Event) : List (RootEffect κ) :=
  if r.listens then [.user (.event e)]
  else [.log (.warn s!"{e.name} event dropped: no event handler registered")]

/-- The line for a change of state; no line if nothing changes. -/
def changeLines (earlier later : ConnectionState) : List (RootEffect κ) :=
  if earlier = later then []
  else [.log (.info s!"Connection state changed: {earlier.shown} -> {later.shown}")]

def publish (r : Root) (state : ConnectionState) : Root × List (RootEffect κ) :=
  ({ r with state, published := r.published + 1 }, changeLines r.state state)

/-- **One call of the chain.** -/
def handle (r : Root) : ChainCall κ → Root × List (RootEffect κ)
  | .complete op => (r, complete op)
  | .pass op => (r, pass op)
  | .event e => (r, r.event e)
  | .connected => r.publish .connected
  | .disconnected => r.publish .disconnected

/-- The same for a caller that says where it is; off the pipeline context it panics. -/
def receive (r : Root) (o : Origin) (c : ChainCall κ) :
    Except String (Root × List (RootEffect κ)) :=
  (o.check .pipeline).map fun _ => r.handle c

end Root

end DeviceLink
