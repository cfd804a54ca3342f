import DeviceLink.Dispatch.Action
import DeviceLink.Failure.Basic
import DeviceLink.Oneshot

/-!
# Waiting for an outcome

A callback and a waiter are made as a pair, the two ends of a channel.  Calling the callback hands
the outcome over; dropping it uncalled is an outcome too.  A waiter is used up once a look has shown
it a result.

* `Waiter` — the waiting end of a pair.
* `Waiter.look` — the result so far, without waiting.
* `Waiter.wait`, `Waiter.waitBlocking` — what waiting for the result comes to.
-/

namespace DeviceLink

/-- The waiting end of a pair, with the channel to the other end. -/
structure Waiter where
  channel : Oneshot Outcome := {}

namespace Waiter

/-- The outcome of an operation whose callback was dropped. -/
def lost : Failure := .pipeline "operation was dropped without being completed"

def call (w : Waiter) (outcome : Outcome) : Waiter := ⟨w.channel.send outcome⟩

def drop (w : Waiter) : Waiter := ⟨w.channel.hangUp⟩

/-- The result so far. -/
def look (w : Waiter) : Option Outcome × Waiter :=
  let (taken, channel) := w.channel.take
  (match taken with
    | .ok outcome => some outcome
    | .error .empty => none
    | .error .closed => some (.error lost), ⟨channel⟩)

/-- What waiting comes to. -/
inductive Wait where
  | outcome (o : Outcome)
  /-- Nothing can come before the callback is called or dropped. -/
  | blocked
  | panic (message : String)

/-- An attempt of a task to go on. -/
def wait (w : Waiter) : Wait :=
  match w.channel.poll with
  | .ready outcome => .outcome outcome
  | .closed => .outcome (.error lost)
  | .pending => .blocked
  | .panic message => .panic message

/-- An attempt of a thread that stands still; it must not drive a task. -/
def waitBlocking (w : Waiter) (inTask : Bool) : Wait :=
  if inTask then .panic Dispatch.blockedInTask else w.wait

end Waiter

end DeviceLink
