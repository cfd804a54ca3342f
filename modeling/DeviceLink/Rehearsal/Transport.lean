import DeviceLink.Rehearsal.Network
import DeviceLink.Rehearsal.Weight

/-!
# Rehearsing a transport

A transport on a network without a way out, used by one thread.  Drivers stand still while the
thread takes a step and then go on until nothing is left to do.

* `TransportAct`, `TransportStep` — what the thread does in a step.
* `TransportReport` — what could be seen of a step.
* `TransportRehearsal.run` — a list of steps.
-/

namespace DeviceLink

open Transport

/-- One thing that the thread does; handlers are names. -/
inductive TransportAct where
  | call (c : Call String)
  /-- Somebody on the other side of the network does something. -/
  | remote
  /-- The transport goes. -/
  | drop

/-- A step: what is done before the drivers go on. -/
abbrev TransportStep := List TransportAct

/-- What comes of one thing that was done. -/
inductive TransportNote where
  | result (r : CallResult)
  /-- Whether the other side could do it. -/
  | reached (b : Bool)
  | dropped
  /-- The transport has gone before. -/
  | gone

/-- What could be seen of a step. -/
structure TransportReport where
  notes : List TransportNote
  notices : List Notice
  told : List (Told String)
  /-- Whether the transport is connected; none when it has gone. -/
  connected : Option Bool

/-- A transport under rehearsal. -/
structure TransportRehearsal where
  transport : Transport String
  files : Config.Files
  network : Network
  /-- The transport has not been dropped. -/
  alive : Bool := true
  /-- What others learned in the step. -/
  seen : List (Effect String) := []

namespace TransportRehearsal

def call (r : TransportRehearsal) (c : Call String) : TransportRehearsal × CallResult :=
  let (transport, told, result) := r.transport.finish r.files c
  ({ r with transport, seen := r.seen ++ told.map Effect.told }, result)

def act (r : TransportRehearsal) : TransportAct → TransportRehearsal × TransportNote
  | .remote => (r, .reached false)
  | .call c =>
    if r.alive then
      let (r, result) := r.call c
      (r, .result result)
    else (r, .gone)
  | .drop => if r.alive then ({ (r.call .quit).1 with alive := false }, .dropped) else (r, .gone)

/-- The drivers go on until nothing is left to do. -/
def settle (r : TransportRehearsal) : (fuel : Nat) → TransportRehearsal
  | 0 => r
  | fuel + 1 =>
    match r.network.stir r.transport with
    | none => r
    | some (transport, effects) =>
      { r with transport, seen := r.seen ++ effects }.settle fuel

/-- The order in which what handlers were told is reported: those told of the end of the
connection come last, by name, since they are told in no particular order. -/
def inOrder (told : List (Told String)) : List (Told String) :=
  let (closed, rest) := told.partition fun t =>
    match t.2 with
    | .error .connectionClosed => true
    | _ => false
  rest ++ closed.mergeSort fun a b => a.1 ≤ b.1

def step (r : TransportRehearsal) (fuel : Nat) (s : TransportStep) :
    TransportRehearsal × TransportReport :=
  let (r, notes) := s.foldl (fun (r, notes) a =>
    let (r, note) := r.act a
    (r, notes ++ [note])) ({ r with seen := [] }, [])
  let r := r.settle fuel
  (r,
    { notes
      notices := r.seen.filterMap fun e => match e with
        | .notice n => some n
        | .told _ => none
      told := inOrder (r.seen.filterMap fun e => match e with
        | .told t => some t
        | .notice _ => none)
      connected := if r.alive then some r.transport.isConnected else none })

def runFrom (r : TransportRehearsal) (fuel : Nat) : List TransportStep → List TransportReport
  | [] => []
  | s :: rest =>
    let (r, report) := r.step fuel s
    report :: r.runFrom fuel rest

def driverTurns : Nat := 8

/-- **A whole rehearsal.**  Each thing that is done starts one driver at most, which bounds
everything. -/
def run (r : TransportRehearsal) (steps : List TransportStep) : List TransportReport :=
  r.runFrom (driverTurns * weigh List.length steps) steps

end TransportRehearsal

end DeviceLink
