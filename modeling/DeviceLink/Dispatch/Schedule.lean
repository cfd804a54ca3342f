import DeviceLink.Dispatch.Machine

/-!
# Schedules

An interleaving is a list of threads.  One schedule is picked out: the outside thread moves while
it can, and the workers move when it cannot; but a handle that is dropped at once is dropped before
anything else happens.  Whatever does not depend on the interleaving can be read off that one.

* `Machine.settle`, `Machine.complete` — the picked schedule, until nothing moves, or until the
  outside thread is done.
* `Rehearsal.run` — a list of steps of one outside thread, with what each comes to.
-/

namespace DeviceLink.Dispatch

variable {ν : Type}

namespace Machine

/-- The order in which threads are asked to move. -/
def turns : List Thread := [.outside 0, .worker .pipeline, .worker .callback]

/-- A thread is about to drop a handle. -/
def discards (m : Machine ν) (t : Thread) : Bool :=
  match m.stack t with
  | .discarding _ _ :: _ => true
  | _ => false

/-- The next step; whoever is about to drop a handle comes first. -/
def advance (m : Machine ν) : Option (Machine ν) :=
  ((turns.filter m.discards) ++ turns).findSome? m.step

def settle (m : Machine ν) : (fuel : Nat) → Machine ν
  | 0 => m
  | fuel + 1 =>
    match m.advance with
    | none => m
    | some next => next.settle fuel

def complete (m : Machine ν) : (fuel : Nat) → Machine ν
  | 0 => m
  | fuel + 1 =>
    if (m.stack (.outside 0)).isEmpty then m
    else match m.advance with
      | none => m
      | some next => next.complete fuel

end Machine

/-! ## Rehearsing a list of steps -/

/-- One thing the outside thread is asked to do, and whether all that follows from it is over
before the next. -/
structure Order (ν : Type) where
  action : Action ν
  settle : Bool := true

namespace Rehearsal

/-- What the outside thread has just been seen to end with. -/
def lastReport (m : Machine ν) : Report :=
  match m.results.getLast? with
  | some (_, report) => report
  | none => .value .unit

/-- Enough fuel for everything that is under way after one more action: an action takes a few
steps of its own, and a few more for its call, its closure and its end. -/
def fuelFor (orders : List (Order ν)) : Nat :=
  16 * (orders.foldl (fun n o => n + o.action.size + 2) 4)

def runFrom (fuel : Nat) (m : Machine ν) : List (Order ν) → Machine ν × List Report
  | [] => (m, [])
  | o :: rest =>
    let m := (m.begin 0 o.action).complete fuel
    let report := lastReport m
    let m := if o.settle then m.settle fuel else m
    let (m, reports) := runFrom fuel m rest
    (m, report :: reports)

def run (names : String) (orders : List (Order ν)) : Machine ν × List Report :=
  let fuel := fuelFor orders
  let (m, reports) := runFrom fuel (.start names 1) orders
  (((m.begin 0 .stop).complete fuel).settle fuel, reports)

end Rehearsal

end DeviceLink.Dispatch
