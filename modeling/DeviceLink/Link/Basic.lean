import DeviceLink.Config.Basic
import DeviceLink.Dispatch.Mailbox
import DeviceLink.Root
import DeviceLink.Stage.Activity

/-!
# A device link

Stage, root and the two workers put together.  Operations and reports of the session are jobs of
the pipeline's worker; callbacks and events are jobs of the callback worker.  Whoever submits,
reports, or runs the user's code only sends to a mailbox, so a link is a set of small steps that
can follow each other in any order.

* `Link` — everything together.
* `Link.submit`, `Link.post`, `Link.happen` — what comes from outside.
* `Link.pipelineStep` — the pipeline's worker does one thing.
* `Link.beginUser`, `Link.endUser` — the callback worker starts and ends a piece of the user's
  code.
* `Link.operations` — every operation that is under way, place by place.
-/

namespace DeviceLink

/-- What the pipeline's worker is given to do. -/
inductive Job (κ : Type) where
  | run (op : Operation κ)
  | report (r : Report)
  /-- Give everything up. -/
  | abandon
  deriving DecidableEq, Repr

def Job.operation? {κ : Type} : Job κ → Option (Operation κ)
  | .run op => some op
  | .report _ | .abandon => none

/-- A link over a world of sessions `ω`, with callbacks of type `κ`. -/
structure Link (κ ω : Type) where
  /-- The stage, with what the job under way has handed over. -/
  activity : Activity κ
  root : Root
  sink : Unhandled
  inbox : Dispatch.Mailbox (Job κ) := {}
  outbox : Dispatch.Mailbox (UserCall κ) := {}
  /-- Whoever has given the pipeline's worker the job under way has not dropped its handle yet. -/
  handleKept : Bool := false
  /-- The user's code that runs. -/
  user : Option (UserCall κ) := none
  world : ω
  nextId : Nat := 1
  log : List LogRecord := []

namespace Link

variable {κ ω : Type}

/-! ## Building -/

def noFactory : Failure := .pipeline "no session factory configured"

def startedLine (c : PipelineConfig) : LogLine :=
  let start := c.threadNamePrefix
  .info s!"Pipeline started: stage {c.stageName}, threads {start}-pipeline and {start}-callback"

def build (c : PipelineConfig) (listens : Bool) (world : Option ω) : Except Failure (Link κ ω) :=
  match world with
  | none => .error noFactory
  | some world => .ok
    { activity := { stage := .new c.stageName }
      root := { listens }
      sink := .ofCapacity c.unhandledHistory
      world
      log :=
        [⟨.dispatch, none, Dispatch.startLine .pipeline c.threadNamePrefix⟩,
          ⟨.dispatch, none, Dispatch.startLine .callback c.threadNamePrefix⟩,
          ⟨.pipeline, none, startedLine c⟩] }

def shown (l : Link κ ω) : String :=
  Text.openRecord "Pipeline"
    [("stage", Text.quoted l.activity.stage.name), ("unhandled", l.sink.shown)]

/-! ## From outside -/

def write (l : Link κ ω) (worker : Option Context) (source : LogSource) (line : LogLine) :
    Link κ ω :=
  { l with log := l.log ++ [⟨source, worker, line⟩] }

/-- Sends a job to the pipeline's worker; a job for a worker that has ended is dropped. -/
def send (l : Link κ ω) (job : Job κ) : Link κ ω :=
  { l with inbox := (l.inbox.send? job).getD l.inbox }

/-- **An operation is submitted**, with the callback that is told its outcome, by a thread outside
or by the user's code on a worker. -/
def submit (l : Link κ ω) (caller : Option Context) (request : Request) (callback : κ) :
    Link κ ω :=
  let op : Operation κ := { id := l.nextId, request, callback := some callback }
  ({ l with nextId := l.nextId + 1 }.write caller .pipeline
    (.debug s!"{op.name}[{op.id}]: submitted")).send (.run op)

/-- **The session reports.** -/
def post (l : Link κ ω) (r : Report) : Link κ ω := l.send (.report r)

def happen (l : Link κ ω) (reports : List Report) (world : ω) : Link κ ω :=
  reports.foldl post { l with world }

def callUser (l : Link κ ω) (c : UserCall κ) : Link κ ω :=
  { l with outbox := (l.outbox.send? c).getD l.outbox }

/-- A failure nobody waits for, noticed on a worker. -/
def reportUnhandled (l : Link κ ω) (worker : Context) (f : Failure) : Link κ ω :=
  { l with sink := l.sink.report f }.write (some worker) .unhandled (.error (Unhandled.line f))

/-! ## The pipeline's worker -/

/-- What the root causes. -/
def effect (l : Link κ ω) : RootEffect κ → Link κ ω
  | .log line => l.write (some .pipeline) .chain line
  | .unhandled f => l.reportUnhandled .pipeline f
  | .user c => l.callUser c

def release (M : SessionModel ω) (l : Link κ ω) (session : SessionId) : Link κ ω :=
  let (reports, world) := M.release l.world session
  l.happen reports world

/-- What can be seen of the stage takes effect.  A panic ends the job under way; a line is written
of it unless its handle is still kept, and is dropped only then. -/
def notice (M : SessionModel ω) (l : Link κ ω) : Trace κ → Link κ ω
  | .log line => l.write (some .pipeline) .stage line
  | .unhandled f => l.reportUnhandled .pipeline f
  | .gone session => l.release M session
  | .panic message =>
    if l.handleKept then l
    else l.write (some .pipeline) .dispatch (.error (Unhandled.lineOf message))
  | .ask _ => l

def ended : Answer → Move κ
  | .returned outcome => .answered outcome
  | .panicked message => .panic message

/-- Root and sessions answer what the stage hands over; a call of a session may take more than
one step. -/
def answer (M : SessionModel ω) (l : Link κ ω) : Ask κ → Link κ ω × Option (Move κ)
  | .chain c =>
    let (root, effects) := l.root.handle c
    (effects.foldl effect { l with root }, some .proceed)
  | .create args =>
    let (result, world) := M.create l.world args
    ({ l with world }, some (.created result))
  | .call session c =>
    let (answer, reports, world) := M.step l.world session c
    (l.happen reports world, answer.map ended)
  | .release session => (l.release M session, some .proceed)

def move (M : SessionModel ω) (l : Link κ ω) (m : Move κ) : Link κ ω :=
  match l.activity.step m with
  | none => l
  | some (activity, traces) => traces.foldl (notice M) { l with activity }

def start : Job κ → Move κ
  | .run op => .enter (.on .pipeline) op
  | .report r => .deliver r
  | .abandon => .abandon (.on .pipeline)

/-- **The pipeline's worker does one thing**, or none when it has nothing to do. -/
def pipelineStep (M : SessionModel ω) (l : Link κ ω) : Option (Link κ ω) :=
  match l.activity.asked? with
  | some ask =>
    match l.answer M ask with
    | (l, none) => some l
    | (l, some m) => some (l.move M m)
  | none =>
    match l.inbox.turn with
    | .none => none
    | .job job rest => some ({ l with inbox := rest }.move M (start job))
    | .stop rest =>
      some ({ l with inbox := rest }.write (some .pipeline) .dispatch (Dispatch.stopLine .pipeline))
    | .exit _ rest => some { l with inbox := rest }

/-! ## The callback worker -/

/-- The callback worker goes on with its mailbox when no user code runs. -/
def beginUser (l : Link κ ω) : Option (Link κ ω) :=
  match l.user with
  | some _ => none
  | none =>
    match l.outbox.turn with
    | .none => none
    | .job c rest => some { l with outbox := rest, user := some c }
    | .stop rest =>
      some ({ l with outbox := rest }.write (some .callback) .dispatch
        (Dispatch.stopLine .callback))
    | .exit _ rest => some { l with outbox := rest }

/-- The user's code returns, or panics; a panic is a failure nobody waits for. -/
def endUser (l : Link κ ω) (panic : Option String) : Link κ ω :=
  match l.user, panic with
  | some c, some message =>
    { l with user := none }.reportUnhandled .callback (c.panicked message)
  | _, _ => { l with user := none }

/-! ## Where everything is -/

/-- The operations that wait for the pipeline's worker. -/
def queued (l : Link κ ω) : List (Operation κ) :=
  (Dispatch.Mailbox.jobs l.inbox.queue).filterMap Job.operation?

/-- Every operation that is under way, place by place. -/
def operations (l : Link κ ω) : List (Operation κ) :=
  l.queued ++ l.activity.operations

/-- Every callback that has not begun to run. -/
def callbacks (l : Link κ ω) : List κ :=
  l.operations.filterMap Operation.callback ++
    (Dispatch.Mailbox.jobs l.outbox.queue).filterMap UserCall.callback?

end Link

end DeviceLink
