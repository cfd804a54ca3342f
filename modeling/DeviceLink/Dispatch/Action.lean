import DeviceLink.Context

/-!
# Calls between contexts

What a dispatched closure can do, as data: look where it runs, guard a context, enter a cell that
belongs to one context, call further closures on either context, wait for them, stop the workers,
fail or panic.

* `Panic` — what a panic carries.
* `Style` — how a caller treats the closure it calls.
* `Action` — one thing a closure does.
* `Value` — what an action, or a whole closure, comes to.
-/

namespace DeviceLink.Dispatch

/-- What a panic carries: a text, or a value that is none. -/
inductive Panic where
  | text (message : String)
  | other
  deriving DecidableEq, Repr

def Panic.message : Panic → String
  | text message => message
  | other => "non-string panic payload"

/-- How a caller treats the closure it dispatches. -/
inductive Style where
  /-- Its thread stands still until the closure's result is there. -/
  | waiting
  /-- Its thread drives a task that is over when the closure's result is there. -/
  | driving
  /-- It goes on and keeps a handle for later. -/
  | keeping
  /-- It goes on and drops the handle at once. -/
  | dropping
  deriving DecidableEq, Repr

/-- A thread that drives a task must not stand still. -/
def blockedInTask : String :=
  "Cannot block the current thread from within a runtime. This happens because a function "
    ++ "attempted to block the current thread while the thread is being used to drive asynchronous "
    ++ "tasks."

/-- A thread that drives a task cannot drive another inside it. -/
def taskInTask : String :=
  "Cannot start a runtime from within a runtime. This happens because a function (like "
    ++ "`block_on`) attempted to block the current thread while the thread is being used to drive "
    ++ "asynchronous tasks. If you are in an async function, use `.await` on the future instead of "
    ++ "blocking on it."

/-- One thing a closure does.  `ν` is the type of what it can leave in the record. -/
inductive Action (ν : Type) where
  /-- Tells the name of the thread. -/
  | tellThread
  /-- Tells the context the closure was told it is on. -/
  | tellContext
  /-- Leaves a value in the record of the thread. -/
  | record (v : ν)
  /-- Panics unless the closure is on a context. -/
  | guard (expected : Context)
  | panic (p : Panic)
  /-- Ends the closure with an error. -/
  | fail (text : String)
  /-- Enters the cell of a context and runs a closure inside. -/
  | enter (cell : Context) (body : List (Action ν))
  /-- Changes the value of a cell that the closure is inside: the one that was entered last or,
  counted outwards, one that was entered before it. -/
  | update (level : Nat) (change : Int → Int)
  /-- Calls a closure on a context, from where the caller says it is or as stated. -/
  | call (style : Style) (stated : Option Origin) (target : Context) (body : List (Action ν))
  /-- Waits on a kept handle, which this uses up. -/
  | wait (handle : Nat)
  /-- Drops a kept handle. -/
  | forget (handle : Nat)
  /-- Runs a closure on the spot, telling it a place. -/
  | inline (stated : Origin) (body : List (Action ν))
  /-- Stops both workers, the pipeline's first. -/
  | stop
  deriving Inhabited

/-- Adds to the value of the cell that was entered last. -/
def Action.add {ν : Type} (n : Int) : Action ν := .update 0 (· + n)

/-- What an action, or a closure, comes to. -/
inductive Value where
  | unit
  | thread (name : String)
  | context (c : Option Context)
  | guarded
  | number (n : Int)
  /-- A closure ended with the values of its actions. -/
  | returned (values : List Value)
  /-- A closure ended with an error. -/
  | failed (text : String)
  /-- A call was not run. -/
  | fault (f : DispatchFault)
  /-- A call was dispatched; whether its result was there at once. -/
  | ready (b : Bool)
  /-- No such handle is kept. -/
  | noHandle
  | stopped
  deriving Repr, Inhabited

mutual

/-- The number of actions in an action, itself included. -/
def Action.size {ν : Type} : Action ν → Nat
  | .enter _ body => 1 + Action.sizes body
  | .call _ _ _ body => 1 + Action.sizes body
  | .inline _ body => 1 + Action.sizes body
  | _ => 1

def Action.sizes {ν : Type} : List (Action ν) → Nat
  | [] => 0
  | a :: rest => a.size + Action.sizes rest

end

end DeviceLink.Dispatch
