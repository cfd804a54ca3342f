import DeviceLink.Context
import DeviceLink.Log

/-!
# The mailbox of a worker

Each context is a worker that takes commands from its mailbox one at a time, in the order they
were sent.  The order to stop is a command like any other: what was sent ahead of it still runs,
what was sent behind it is dropped when the worker ends.

* `Command`, `Mailbox` — the commands that wait, and how far the worker has come.
* `Mailbox.send?`, `Mailbox.sendStop`, `Mailbox.claim` — what others do to a mailbox.
* `Mailbox.turn` — what its worker does next.
* `PerContext` — one of a kind for each context.
-/

namespace DeviceLink.Dispatch

/-! ## One mailbox -/

/-- What a worker is told to do. -/
inductive Command (J : Type) where
  | run (job : J)
  | stop
  deriving Repr

/-- How far a worker has come. -/
inductive Phase where
  /-- It takes commands. -/
  | running
  /-- It has taken the order to stop and will take nothing more. -/
  | stopped
  /-- It has ended; its mailbox is closed. -/
  | exited
  deriving DecidableEq, Repr

/-- A worker's mailbox. -/
structure Mailbox (J : Type) where
  /-- Commands that wait, oldest first. -/
  queue : List (Command J) := []
  phase : Phase := .running
  /-- Nobody has claimed the right to wait for the worker's end. -/
  joinable : Bool := true

namespace Mailbox

variable {J : Type}

def send? (m : Mailbox J) (job : J) : Option (Mailbox J) :=
  match m.phase with
  | .exited => none
  | .running | .stopped => some { m with queue := m.queue ++ [.run job] }

def sendStop (m : Mailbox J) : Mailbox J :=
  match m.phase with
  | .exited => m
  | .running | .stopped => { m with queue := m.queue ++ [.stop] }

/-- Claims the right to wait for the worker's end; only the first claim gets it. -/
def claim (m : Mailbox J) : Mailbox J := { m with joinable := false }

def jobs (commands : List (Command J)) : List J :=
  commands.filterMap fun
    | .run job => some job
    | .stop => none

/-- What a worker with nothing under way does next. -/
inductive Turn (J : Type) where
  /-- It takes a job. -/
  | job (job : J) (rest : Mailbox J)
  /-- It takes the order to stop. -/
  | stop (rest : Mailbox J)
  /-- It ends and drops the jobs that wait. -/
  | exit (dropped : List J) (rest : Mailbox J)
  /-- It waits for a command, or it is gone. -/
  | none

def turn (m : Mailbox J) : Turn J :=
  match m.phase with
  | .running =>
    match m.queue with
    | [] => .none
    | .run job :: rest => .job job { m with queue := rest }
    | .stop :: rest => .stop { m with queue := rest, phase := .stopped }
  | .stopped => .exit (jobs m.queue) { m with queue := [], phase := .exited }
  | .exited => .none

end Mailbox

/-! ## One for each context -/

/-- One value for each of the two contexts. -/
structure PerContext (α : Type) where
  pipeline : α
  callback : α
  deriving Repr

namespace PerContext

variable {α : Type}

def get (p : PerContext α) : Context → α
  | .pipeline => p.pipeline
  | .callback => p.callback

def set (p : PerContext α) (c : Context) (a : α) : PerContext α :=
  match c with
  | .pipeline => { p with pipeline := a }
  | .callback => { p with callback := a }

def both (a : α) : PerContext α := ⟨a, a⟩

theorem get_set (p : PerContext α) (c d : Context) (a : α) :
    (p.set c a).get d = if d = c then a else p.get d := by
  cases c <;> cases d <;> rfl

end PerContext

/-! ## Log lines of a worker's life -/

def stopLine (c : Context) : LogLine := .trace s!"{c.word} worker received shutdown"

/-- A worker's own job has asked it to stop. -/
def ownStopLine (c : Context) : LogLine := .debug s!"{c.word} context shut down from its own worker"

/-- A worker has ended, and somebody who waited for it goes on. -/
def joinedLine (c : Context) : LogLine := .debug s!"{c.word} context stopped"

def startLine (c : Context) (start : String) : LogLine :=
  .debug s!"Started {c.word} context on thread {c.threadName start}"

end DeviceLink.Dispatch
