import DeviceLink.Dispatch.Action
import DeviceLink.Dispatch.Mailbox
import DeviceLink.Unhandled

/-!
# The dispatcher as a machine

Two workers and any number of outside threads run closures.  Each thread has a stack of frames;
one step of one thread does one action.  Which thread moves next is not the machine's choice: a
schedule is a list of threads, and every interleaving is one.

* `Frame`, `Ticket`, `Machine` — threads under way, calls under way, everything together.
* `Machine.step` — one step of one thread, or none when it is idle or has to wait.
* `Machine.begin` — an outside thread starts a closure.
-/

namespace DeviceLink.Dispatch

/-! ## The parts of the machine -/

/-- Who runs. -/
inductive Thread where
  | outside (n : Nat)
  | worker (c : Context)
  deriving DecidableEq, Repr

/-- What becomes of the value of a closure. -/
inductive Goal where
  /-- It is the value of the action that ran the closure. -/
  | value
  /-- The same, and the thread drives a task until then. -/
  | task
  /-- It is kept under a handle, if the handle is kept; the action's value is that it is ready. -/
  | keep (handle : Option Nat)
  /-- It is sent to whoever holds the ticket. -/
  | ticket (ticket : Nat)
  /-- The closure ran inside a cell, whose value is the value of the action. -/
  | leave (cell : Context)
  /-- It is the result of what an outside thread was asked to do. -/
  | result
  deriving DecidableEq, Repr

/-- One level of a thread's stack. -/
inductive Frame (ν : Type) where
  /-- A closure under way: where it is told it runs, what is left, what was done. -/
  | running (origin : Origin) (rest : List (Action ν)) (values : List Value) (goal : Goal)
  /-- Waiting for a call. -/
  | awaiting (ticket : Nat)
  /-- Dropping the handle of a call, to go on or to panic. -/
  | discarding (ticket : Nat) (panic : Option Panic)
  /-- Stopping contexts. -/
  | stopping (todo : List Context)
  /-- Waiting for the end of a worker, with more contexts to stop. -/
  | joining (c : Context) (todo : List Context)

def drivesTask {ν : Type} (frames : List (Frame ν)) : Bool :=
  frames.any fun
    | .running _ _ _ goal => goal = .task
    | .awaiting _ | .discarding _ _ | .stopping _ | .joining _ _ => false

/-- The cells that the closure at the top of a stack is inside, the one that was entered last in
front. -/
def reach {ν : Type} : List (Frame ν) → List Context
  | .running _ _ _ (.leave cell) :: below => cell :: reach below
  | _ => []

/-- What came of a call that was queued. -/
inductive Delivery where
  | pending
  | value (v : Value)
  | panicked (p : Panic)
  /-- The call was dropped unrun. -/
  | lost

/-- A queued call, from the side of its caller. -/
structure Ticket where
  target : Context
  /-- Somebody still holds the handle. -/
  held : Bool
  delivery : Delivery := .pending

/-- A kept handle. -/
inductive Handle where
  /-- Nothing is kept, or not any more. -/
  | empty
  | ready (v : Value)
  | pending (ticket : Nat)
  | failed (f : DispatchFault)

/-- A cell that belongs to one context. -/
structure Cell where
  value : Int := 0
  /-- Somebody is inside. -/
  entered : Bool := false
  deriving Repr

/-- A call as it stands in a mailbox. -/
structure Call (ν : Type) where
  ticket : Nat
  body : List (Action ν)

/-- How something that an outside thread was asked to do ended. -/
inductive Report where
  | value (v : Value)
  | panicked (p : Panic)
  deriving Repr

/-- The whole dispatcher with everything under way. -/
structure Machine (ν : Type) where
  /-- What the workers' thread names start with. -/
  names : String
  boxes : PerContext (Mailbox (Call ν)) := .both {}
  workers : PerContext (List (Frame ν)) := .both []
  outside : List (List (Frame ν)) := []
  cells : PerContext Cell := .both {}
  tickets : List Ticket := []
  handles : List Handle := []
  record : List (Thread × ν) := []
  results : List (Nat × Report) := []
  log : List LogLine := []

namespace Machine

variable {ν : Type}

/-! ## Access -/

def stack (m : Machine ν) : Thread → List (Frame ν)
  | .worker c => m.workers.get c
  | .outside n => (m.outside[n]?).getD []

def setStack (m : Machine ν) (t : Thread) (frames : List (Frame ν)) : Machine ν :=
  match t with
  | .worker c => { m with workers := m.workers.set c frames }
  | .outside n => { m with outside := m.outside.set n frames }

def threadName (m : Machine ν) : Thread → String
  | .worker c => c.threadName m.names
  | .outside 0 => "main"
  | .outside n => s!"main-{n}"

def write (m : Machine ν) (line : LogLine) : Machine ν := { m with log := m.log ++ [line] }

def setCell (m : Machine ν) (c : Context) (cell : Cell) : Machine ν :=
  { m with cells := m.cells.set c cell }

def setHandle (m : Machine ν) (handle : Nat) (h : Handle) : Machine ν :=
  { m with handles := m.handles.set handle h }

def setTicket (m : Machine ν) (ticket : Nat) (t : Ticket) : Machine ν :=
  { m with tickets := m.tickets.set ticket t }

/-- Makes room for one more handle, with nothing kept under it yet. -/
def newHandle (m : Machine ν) : Machine ν := { m with handles := m.handles ++ [Handle.empty] }

/-- Notes how something an outside thread was asked to do has ended. -/
def conclude (m : Machine ν) (n : Nat) (r : Report) : Machine ν :=
  { m with results := m.results ++ [(n, r)] }

def push (m : Machine ν) (t : Thread) (frame : Frame ν) : Machine ν :=
  m.setStack t (frame :: m.stack t)

def give (m : Machine ν) (t : Thread) (v : Value) (below : List (Frame ν)) : Machine ν :=
  match below with
  | .running origin rest values goal :: frames =>
    m.setStack t (.running origin rest (values ++ [v]) goal :: frames)
  | frames => m.setStack t frames

/-! ## The end of a closure -/

/-- Sends what came of a call to its holder.  With nobody to take it, a panic is logged and
anything else is dropped. -/
def deliver (m : Machine ν) (ticket : Nat) (d : Delivery) : Machine ν :=
  match m.tickets[ticket]? with
  | none => m
  | some t =>
    if t.held then m.setTicket ticket { t with delivery := d }
    else match d with
      | .panicked p => m.write (.error (Unhandled.lineOf p.message))
      | .pending | .value _ | .lost => m

def finish (m : Machine ν) (t : Thread) (v : Value) (goal : Goal) (below : List (Frame ν)) :
    Machine ν :=
  match goal with
  | .value | .task => m.give t v below
  | .keep none => m.give t (.ready true) below
  | .keep (some handle) => (m.setHandle handle (.ready v)).give t (.ready true) below
  | .ticket ticket => (m.deliver ticket (.value v)).setStack t below
  | .leave cell =>
    let value := (m.cells.get cell).value
    (m.setCell cell { value }).give t (.number value) below
  | .result =>
    match t with
    | .outside n => (m.conclude n (.value v)).setStack t below
    | .worker _ => m.setStack t below

/-- **A panic unwinds the stack.**  Cells on the way are left; a queued call and the outermost
closure of an outside thread catch it. -/
def unwind (m : Machine ν) (t : Thread) (p : Panic) : List (Frame ν) → Machine ν
  | [] => m.setStack t []
  | .running _ _ _ goal :: below =>
    match goal with
    | .ticket ticket => (m.deliver ticket (.panicked p)).setStack t below
    | .result =>
      match t with
      | .outside n => (m.conclude n (.panicked p)).setStack t below
      | .worker _ => m.setStack t below
    | .leave cell => (m.setCell cell { value := (m.cells.get cell).value }).unwind t p below
    | .value | .task | .keep _ => m.unwind t p below
  | .awaiting _ :: below | .discarding _ _ :: below | .stopping _ :: below
  | .joining _ _ :: below => m.unwind t p below

/-! ## Actions -/

/-- Opens a ticket and queues a call under it, if the target still takes calls. -/
def queue? (m : Machine ν) (target : Context) (body : List (Action ν)) :
    Option (Nat × Machine ν) :=
  let ticket := m.tickets.length
  (m.boxes.get target).send? ⟨ticket, body⟩ |>.map fun box =>
    (ticket, { m with
      boxes := m.boxes.set target box
      tickets := m.tickets ++ [{ target, held := true }] })

/-- Dispatches a closure.  A caller that is on the target already runs it on the spot; all others
queue it, and have its handle then.  A thread that drives a task panics where it would have to stand
still: a second task is not begun, and a call has been queued by then, whose handle is dropped. -/
def call (m : Machine ν) (t : Thread) (origin : Origin) (style : Style) (target : Context)
    (body : List (Action ν)) (below : List (Frame ν)) : Machine ν :=
  match style with
  | .waiting =>
    if origin = .on target then m.setStack t (.running origin body [] .value :: below)
    else match m.queue? target body with
      | some (ticket, m) =>
        if drivesTask below then
          m.setStack t (.discarding ticket (some (.text blockedInTask)) :: below)
        else m.setStack t (.awaiting ticket :: below)
      | none => m.give t (.fault (.closed target)) below
  | .driving =>
    if drivesTask below then m.unwind t (.text taskInTask) below
    else if origin = .on target then m.setStack t (.running origin body [] .task :: below)
    else match m.queue? target body with
      | some (ticket, m) => m.setStack t (.awaiting ticket :: below)
      | none => m.give t (.fault (.closed target)) below
  | .keeping =>
    let handle := m.handles.length
    let m := m.newHandle
    if origin = .on target then
      m.setStack t (.running origin body [] (.keep (some handle)) :: below)
    else match m.queue? target body with
      | some (ticket, m) => (m.setHandle handle (.pending ticket)).give t (.ready false) below
      | none =>
        (m.setHandle handle (.failed (.closed target))).give t (.ready false) below
  | .dropping =>
    if origin = .on target then m.setStack t (.running origin body [] (.keep none) :: below)
    else match m.queue? target body with
      | some (ticket, m) => m.setStack t (.discarding ticket none :: below)
      | none => m.give t (.ready false) below

/-- Nobody is told any more what a call comes to. -/
def letGo (m : Machine ν) (ticket : Nat) : Machine ν :=
  match m.tickets[ticket]? with
  | some t => m.setTicket ticket { t with held := false }
  | none => m

/-- Drops a handle; a thread goes on then, or panics. -/
def discard (m : Machine ν) (t : Thread) (ticket : Nat) (panic : Option Panic)
    (below : List (Frame ν)) : Machine ν :=
  match panic with
  | none => (m.letGo ticket).give t (.ready false) below
  | some p => (m.letGo ticket).unwind t p below

def forget (m : Machine ν) (handle : Nat) : Machine ν :=
  let dropped := m.setHandle handle .empty
  match m.handles[handle]? with
  | some (.pending ticket) => dropped.letGo ticket
  | _ => dropped

/-- Waits on a kept handle; a thread that drives a task cannot wait for what is not there. -/
def wait (m : Machine ν) (t : Thread) (handle : Nat) (below : List (Frame ν)) : Machine ν :=
  let taken := m.setHandle handle .empty
  match m.handles[handle]? with
  | none | some .empty => m.give t .noHandle below
  | some (.ready v) => taken.give t v below
  | some (.failed f) => taken.give t (.fault f) below
  | some (.pending ticket) =>
    if drivesTask below then (m.forget handle).unwind t (.text blockedInTask) below
    else taken.setStack t (.awaiting ticket :: below)

def perform (m : Machine ν) (t : Thread) (a : Action ν) (origin : Origin) (goal : Goal)
    (top : Frame ν) (below : List (Frame ν)) : Machine ν :=
  match a with
  | .tellThread => m.give t (.thread (m.threadName t)) (top :: below)
  | .tellContext => m.give t (.context origin.current) (top :: below)
  | .record v => { m with record := m.record ++ [(t, v)] }.give t .unit (top :: below)
  | .guard expected =>
    match origin.check expected with
    | .ok () => m.give t .guarded (top :: below)
    | .error text => m.unwind t (.text text) (top :: below)
  | .panic p => m.unwind t p (top :: below)
  | .fail text => m.finish t (.failed text) goal below
  | .enter cell body =>
    match origin.check cell with
    | .error text => m.unwind t (.text text) (top :: below)
    | .ok () =>
      let inside := m.cells.get cell
      if inside.entered then m.unwind t (.text cell.reentered) (top :: below)
      else
        (m.setCell cell { inside with entered := true }).setStack t
          (.running origin body [] (.leave cell) :: top :: below)
  | .update level change =>
    match (reach (top :: below))[level]? with
    | some cell =>
      let inside := m.cells.get cell
      (m.setCell cell { inside with value := change inside.value }).give t .unit (top :: below)
    | none => m.give t .unit (top :: below)
  | .call style stated target body =>
    m.call t (stated.getD origin) style target body (top :: below)
  | .wait handle => m.wait t handle (top :: below)
  | .forget handle => (m.forget handle).give t .unit (top :: below)
  | .inline stated body => m.setStack t (.running stated body [] .value :: top :: below)
  | .stop => m.setStack t (.stopping [.pipeline, .callback] :: top :: below)

/-! ## Steps -/

/-- A worker with nothing under way turns to its mailbox. -/
def takeTurn (m : Machine ν) (c : Context) : Option (Machine ν) :=
  match (m.boxes.get c).turn with
  | .none => none
  | .job job rest =>
    some ({ m with boxes := m.boxes.set c rest }.setStack (.worker c)
      [.running (.on c) job.body [] (.ticket job.ticket)])
  | .stop rest => some ({ m with boxes := m.boxes.set c rest }.write (stopLine c))
  | .exit dropped rest =>
    some (dropped.foldl (fun m job => m.deliver job.ticket .lost)
      { m with boxes := m.boxes.set c rest })

/-- Goes on with stopping the contexts that are left. -/
def stopNext (m : Machine ν) (t : Thread) (todo : List Context) (below : List (Frame ν)) :
    Machine ν :=
  match todo with
  | [] => m.give t .stopped below
  | c :: todo =>
    let box := m.boxes.get c
    let m := { m with boxes := m.boxes.set c box.sendStop.claim }
    if !box.joinable then m.setStack t (.stopping todo :: below)
    else if t = .worker c then
      (m.write (ownStopLine c)).setStack t (.stopping todo :: below)
    else m.setStack t (.joining c todo :: below)

/-- **One step of a thread**, or none when it is idle or has to wait. -/
def step (m : Machine ν) (t : Thread) : Option (Machine ν) :=
  match m.stack t with
  | [] =>
    match t with
    | .worker c => m.takeTurn c
    | .outside _ => none
  | .running _ [] values goal :: below => some (m.finish t (.returned values) goal below)
  | .running origin (a :: rest) values goal :: below =>
    some (m.perform t a origin goal (.running origin rest values goal) below)
  | .awaiting ticket :: below =>
    match m.tickets[ticket]? with
    | none => none
    | some call =>
      match call.delivery with
      | .pending => none
      | .value v => some (m.give t v below)
      | .panicked p => some (m.unwind t p below)
      | .lost => some (m.give t (.fault (.dropped call.target)) below)
  | .discarding ticket panic :: below => some (m.discard t ticket panic below)
  | .stopping todo :: below => some (m.stopNext t todo below)
  | .joining c todo :: below =>
    match (m.boxes.get c).phase with
    | .exited => some ((m.write (joinedLine c)).setStack t (.stopping todo :: below))
    | .running | .stopped => none

def begin (m : Machine ν) (n : Nat) (a : Action ν) : Machine ν :=
  m.push (.outside n) (.running .external [a] [] .result)

def start (names : String) (threads : Nat) : Machine ν :=
  { names
    outside := List.replicate threads []
    log := [startLine .pipeline names, startLine .callback names] }

end Machine

/-! ## Shown for debugging -/

/-- A dispatcher shows nothing of itself. -/
def shownDispatcher : String := Text.openRecord "Dispatcher" []

/-- A cell shows its owner only. -/
def shownCell (owner : Context) : String := Text.openRecord "Affine" [("owner", owner.shown)]

def shownOrigin (o : Origin) : String :=
  Text.record "Cx" [("on", Text.optional (o.current.map Context.shown))]

end DeviceLink.Dispatch
