import DeviceLink.Transport.Fault

/-!
# Matching acknowledgements to requests

The client gives a request its packet id only when the request leaves.  Requests of a kind leave
in the order they were queued, so a packet that leaves claims the oldest queued handler of its
kind, which then waits under the packet id for its acknowledgement.

* `AckTracker` — handlers in the queues and in flight.
* `enqueue`, `withdrawLast`, `sent`, `acknowledged`, `failAll` — the moves of a handler.

Every move gives the handlers it calls, in order, with what each is told.
-/

namespace DeviceLink.Transport

/-- The kinds of requests that are acknowledged. -/
inductive AckKind where
  | publish
  | subscribe
  | unsubscribe
  deriving DecidableEq, Repr

/-- A handler and what it is told. -/
abbrev Told (η : Type) := η × Except Fault Unit

/-- The handlers that wait for an acknowledgement. -/
structure AckTracker (η : Type) where
  /-- Requests that have not left yet, oldest first. -/
  queued : AckKind → List η := fun _ => []
  /-- Requests that have left, by kind and packet id. -/
  inflight : List ((AckKind × Nat) × η) := []

namespace AckTracker

variable {η : Type}

def setQueue (t : AckTracker η) (kind : AckKind) (queue : List η) : AckTracker η :=
  { t with queued := fun k => if k = kind then queue else t.queued k }

/-- Registers the handler of a request that is about to be queued. -/
def enqueue (t : AckTracker η) (kind : AckKind) (handler : η) : AckTracker η :=
  t.setQueue kind (t.queued kind ++ [handler])

/-- Takes back the latest handler of a kind, whose request could not be queued. -/
def withdrawLast (t : AckTracker η) (kind : AckKind) : Option η × AckTracker η :=
  match (t.queued kind).getLast? with
  | none => (none, t)
  | some handler => (some handler, t.setQueue kind (t.queued kind).dropLast)

def find? (t : AckTracker η) (key : AckKind × Nat) : Option η :=
  (t.inflight.find? (·.1 = key)).map (·.2)

def forget (t : AckTracker η) (key : AckKind × Nat) : AckTracker η :=
  { t with inflight := t.inflight.filter (·.1 ≠ key) }

/-- A request left under a packet id.  Nothing acknowledges id 0, so its handler is told at once;
a handler still in flight under a reused id is told that its connection closed. -/
def sent (t : AckTracker η) (kind : AckKind) (pkid : Nat) : AckTracker η × List (Told η) :=
  match t.queued kind with
  | [] => (t, [])
  | handler :: rest =>
    let t := t.setQueue kind rest
    if pkid = 0 then (t, [(handler, .ok ())])
    else
      let displaced := (t.find? (kind, pkid)).map fun previous =>
        (previous, Except.error Fault.connectionClosed)
      let t := t.forget (kind, pkid)
      ({ t with inflight := t.inflight ++ [((kind, pkid), handler)] }, displaced.toList)

/-- The broker acknowledged a packet; an id that is not in flight is ignored. -/
def acknowledged (t : AckTracker η) (kind : AckKind) (pkid : Nat) (outcome : Except Fault Unit) :
    AckTracker η × List (Told η) :=
  match t.find? (kind, pkid) with
  | none => (t, [])
  | some handler => (t.forget (kind, pkid), [(handler, outcome)])

def waiting (t : AckTracker η) : List η :=
  t.queued .publish ++ t.queued .subscribe ++ t.queued .unsubscribe ++ t.inflight.map (·.2)

/-- The connection ended: every handler is told so, and none is left. -/
def failAll (t : AckTracker η) : AckTracker η × List (Told η) :=
  ({}, t.waiting.map fun handler => (handler, .error .connectionClosed))

end AckTracker

end DeviceLink.Transport
