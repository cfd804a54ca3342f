import DeviceLink.Dispatch.Action
import DeviceLink.Dispatch.Mailbox
import DeviceLink.Root

/-!
# Rehearsing a root

The top of a chain by itself, over a callback worker.  The user's code records what it is told and
may panic.

* `RootAct`, `RootStep` — one thing that happens to the root.
* `RootRehearsal.run` — a list of them.
-/

namespace DeviceLink

/-- A callback that records the number of its step and then may panic. -/
structure RootToken where
  step : Nat
  panic : Option Dispatch.Panic := none

/-- One thing that happens to a rehearsed root. -/
inductive RootAct where
  | call (c : ChainCall RootToken)
  /-- The workers are stopped. -/
  | shutdown

/-- A step, by code that says where it is. -/
structure RootStep where
  origin : Origin
  act : RootAct

/-- What the user's code records. -/
inductive RootSight where
  | completed (step : Nat) (outcome : Outcome)
  | event (e : Event)

/-- What could be seen of a step. -/
structure RootReport where
  seen : List RootSight
  /-- A state was published. -/
  changed : Bool
  state : ConnectionState
  /-- Failures nobody waited for, so far. -/
  unhandled : Nat
  panic : Option String

/-- A root under rehearsal. -/
structure RootRehearsal where
  root : Root
  sink : Unhandled
  /-- What the event handler panics with, if it does. -/
  handlerPanic : Option String := none
  outbox : Dispatch.Mailbox (UserCall RootToken) := {}
  seen : List RootSight := []

namespace RootRehearsal

def effect (r : RootRehearsal) : RootEffect RootToken → RootRehearsal
  | .log _ => r
  | .unhandled f => { r with sink := r.sink.report f }
  | .user c => { r with outbox := (r.outbox.send? c).getD r.outbox }

/-- What a piece of the user's code records, and the panic it ends with. -/
def runUser (r : RootRehearsal) : UserCall RootToken → RootSight × Option String
  | .completion _ _ token outcome =>
    (.completed token.step outcome, token.panic.map Dispatch.Panic.message)
  | .event e => (.event e, r.handlerPanic)

def settle (r : RootRehearsal) : RootRehearsal :=
  match r.outbox.phase with
  | .exited => r
  | .running | .stopped =>
    (Dispatch.Mailbox.jobs r.outbox.queue).foldl (fun r c =>
      let (sight, panic) := r.runUser c
      let r := { r with seen := r.seen ++ [sight] }
      match panic with
      | some message => { r with sink := r.sink.report (c.panicked message) }
      | none => r) { r with outbox := { r.outbox with queue := [] } }

def step (r : RootRehearsal) (s : RootStep) : RootRehearsal × RootReport :=
  let start := { r with seen := [] }
  let (next, panic) := match s.act with
    | .shutdown => ({ start with outbox := { r.outbox with phase := .exited } }, none)
    | .call c =>
      match r.root.receive s.origin c with
      | .ok (root, effects) => (effects.foldl effect { start with root }, none)
      | .error message => (start, some message)
  let next := next.settle
  (next,
    { seen := next.seen
      changed := r.root.published ≠ next.root.published
      state := next.root.state
      unhandled := next.sink.count.toNat
      panic })

def run (r : RootRehearsal) : List RootStep → RootRehearsal × List RootReport
  | [] => (r, [])
  | s :: rest =>
    let (r, report) := r.step s
    let (r, reports) := r.run rest
    (r, report :: reports)

end RootRehearsal

end DeviceLink
