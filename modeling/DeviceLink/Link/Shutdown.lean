import DeviceLink.Link.Basic

/-!
# Shutting a link down

Whoever shuts a link down first has everything given up, then stops the pipeline's worker, waits
for its end if nobody else does, and then does the same with the callback worker.  Each of these
is a step of its own, and others may come in between.

* `Shutdown` — how far a shutdown has come.
* `Link.shutdownStep` — its next step.
-/

namespace DeviceLink

/-- How far one call of a shutdown has come. -/
inductive Shutdown where
  /-- Everything is to be given up. -/
  | abandon
  /-- Workers are to be stopped. -/
  | stop (todo : List Context)
  /-- A worker's end is waited for. -/
  | join (c : Context) (todo : List Context)
  deriving DecidableEq, Repr

namespace Link

variable {κ ω : Type}

def phase (l : Link κ ω) : Context → Dispatch.Phase
  | .pipeline => l.inbox.phase
  | .callback => l.outbox.phase

def joinable (l : Link κ ω) : Context → Bool
  | .pipeline => l.inbox.joinable
  | .callback => l.outbox.joinable

/-- Sends the order to stop and claims the right to wait. -/
def order (l : Link κ ω) : Context → Link κ ω
  | .pipeline => { l with inbox := l.inbox.sendStop.claim }
  | .callback => { l with outbox := l.outbox.sendStop.claim }

/-- **The next step of a shutdown** by a thread that may be one of the workers; none while it has
to wait, or when it is over. -/
def shutdownStep (l : Link κ ω) (worker : Option Context) : Shutdown → Option (Link κ ω × Shutdown)
  | .abandon => some (l.send .abandon, .stop [.pipeline, .callback])
  | .stop [] => none
  | .stop (c :: todo) =>
    let ordered := l.order c
    if !l.joinable c then some (ordered, .stop todo)
    else if worker = some c then
      some (ordered.write worker .dispatch (Dispatch.ownStopLine c), .stop todo)
    else some (ordered, .join c todo)
  | .join c todo =>
    match l.phase c with
    | .exited => some (l.write worker .dispatch (Dispatch.joinedLine c), .stop todo)
    | .running | .stopped => none

end Link

end DeviceLink
