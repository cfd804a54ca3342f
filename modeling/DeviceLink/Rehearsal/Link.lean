import DeviceLink.Link.Shutdown
import DeviceLink.Rehearsal.Errand
import DeviceLink.Rehearsal.Weight
import DeviceLink.Waiter

/-!
# Rehearsing a link

A whole link, used by one thread outside.  The user's code records what it is told, submits further
operations and may panic.  Workers stand still while the thread takes a step.  When it waits, and
when the step is over, they go on until nothing is left to do: the pipeline's worker first, then
the callback worker, then the world of sessions.

* `Surroundings` — the world of sessions as a rehearsal needs it.
* `LinkAct`, `LinkStep` — what the thread does in a step.
* `LinkReport` — what could be seen of a step.
* `LinkRehearsal.run` — a list of steps.
-/

namespace DeviceLink

/-- What the end of a rehearsed operation reaches. -/
inductive Token where
  /-- A callback that records its label, with what comes next. -/
  | recorder (label : Nat) (errand : Errand)
  /-- A waiter, by its number. -/
  | waiter (n : Nat)

/-- The world of sessions as a rehearsal needs it. -/
structure Surroundings (ω : Type) where
  model : SessionModel ω
  /-- One thing that happens in the world when it is left alone. -/
  stir : ω → Option (List Report × ω) := fun _ => none
  /-- A new step begins; a world that keeps a record starts a new page. -/
  turnPage : ω → ω := id
  /-- The order in which the user's code runs is left to chance, so it is not reported. -/
  unordered : Bool := false

/-- A remark on one thing that was done. -/
inductive LinkNote where
  | nothing
  | truth (b : Bool)
  | text (s : String)
  | outcome (o : Outcome)

def LinkNote.ofLook : Option Outcome → LinkNote
  | some o => .outcome o
  | none => .text "pending"

/-- One thing that the thread outside does. -/
inductive LinkAct (ω : Type) where
  | submit (e : Errand)
  /-- Submits and keeps the waiter, for looks to come. -/
  | submitWaiter (r : Request)
  /-- Looks at a kept waiter. -/
  | look (index : Nat)
  /-- Submits and waits for the outcome, as long as anything goes on. -/
  | execute (r : Request)
  /-- Does something in the world of sessions. -/
  | stir (f : ω → LinkNote × List Report × ω)
  | shutdown
  /-- The link goes. -/
  | drop

/-- One thing that is done, and how the world is prepared for what it causes. -/
structure LinkPart (ω : Type) where
  act : LinkAct ω
  prepare : ω → ω := id
  /-- How much the world does because of it, at most. -/
  weight : Nat := 1

/-- A step: what is done before the workers go on. -/
abbrev LinkStep (ω : Type) := List (LinkPart ω)

/-- What the user's code records. -/
inductive UserSight where
  | completed (label : Nat) (outcome : Outcome)
  | event (e : Event)

/-- What could be seen of a step. -/
structure LinkReport (ω : Type) where
  notes : List LinkNote
  user : List UserSight
  /-- Whether a state was published; none once the link is gone. -/
  changed : Option Bool
  state : ConnectionState
  /-- Failures nobody waited for, so far. -/
  unhandled : Nat
  /-- The world of sessions afterwards. -/
  world : ω

/-- A link under rehearsal. -/
structure LinkRehearsal (ω : Type) where
  link : Link Token ω
  surroundings : Surroundings ω
  /-- The link has not been dropped. -/
  alive : Bool := true
  /-- What the event handler panics with, if it does. -/
  handlerPanic : Option String := none
  waiters : List Waiter := []
  /-- The waiters that are kept for looks. -/
  kept : List Nat := []
  nextLabel : Nat := 0
  seen : List UserSight := []

namespace LinkRehearsal

variable {ω : Type}

/-! ## The user's code -/

/-- Submits an errand under a label of its own; without a link it is lost. -/
def submit (caller : Option Context) (r : LinkRehearsal ω) (e : Errand) : LinkRehearsal ω :=
  if r.alive then
    { r with
      link := r.link.submit caller e.request (.recorder r.nextLabel e)
      nextLabel := r.nextLabel + 1 }
  else r

/-- Submits a request with a waiter. -/
def submitWaiting (r : LinkRehearsal ω) (request : Request) : LinkRehearsal ω :=
  { r with
    link := r.link.submit none request (.waiter r.waiters.length)
    waiters := r.waiters ++ [{}] }

def runUser (r : LinkRehearsal ω) : UserCall Token → LinkRehearsal ω × Option String
  | .completion _ _ (.recorder label e) outcome =>
    let r := { r with seen := r.seen ++ [.completed label outcome] }
    (e.next.foldl (submit (some .callback)) r, e.panic.map Dispatch.Panic.message)
  | .completion _ _ (.waiter n) outcome =>
    ({ r with waiters := r.waiters.modify n (·.call outcome) }, none)
  | .event e => ({ r with seen := r.seen ++ [.event e] }, r.handlerPanic)

/-! ## The workers -/

/-- One of the workers does one thing, or else the world does. -/
def advance (r : LinkRehearsal ω) : Option (LinkRehearsal ω) :=
  match r.link.pipelineStep r.surroundings.model with
  | some link => some { r with link }
  | none =>
    match r.link.beginUser with
    | none =>
      (r.surroundings.stir r.link.world).map fun (reports, world) =>
        { r with link := r.link.happen reports world }
    | some link =>
      match link.user with
      | none => some { r with link }
      | some c =>
        let (r, panic) := { r with link }.runUser c
        some { r with link := r.link.endUser panic }

def settle (r : LinkRehearsal ω) : (fuel : Nat) → LinkRehearsal ω
  | 0 => r
  | fuel + 1 =>
    match r.advance with
    | none => r
    | some next => next.settle fuel

/-- Follows a shutdown to its end; the workers go on while it has to wait. -/
def shutdown (r : LinkRehearsal ω) (s : Shutdown) : (fuel : Nat) → LinkRehearsal ω
  | 0 => r
  | fuel + 1 =>
    match r.link.shutdownStep none s with
    | some (link, s) => { r with link }.shutdown s fuel
    | none =>
      match s with
      | .abandon | .stop _ => r
      | .join _ _ =>
        match r.advance with
        | none => r
        | some next => next.shutdown s fuel

/-- A token that the link holds stands for a waiter. -/
def waits (n : Nat) : Token → Bool
  | .waiter m => m == n
  | .recorder _ _ => false

def refresh (r : LinkRehearsal ω) : LinkRehearsal ω :=
  let tokens := r.link.callbacks
  { r with
    waiters := r.waiters.mapIdx fun n w =>
      if tokens.any (waits n) then w else w.drop }

/-! ## Steps -/

/-- The link goes: a session that is left goes with it. -/
def dropLink (r : LinkRehearsal ω) : LinkRehearsal ω :=
  let stage := r.link.activity.stage
  let link := match stage.session with
    | some session => r.link.release r.surroundings.model session
    | none => r.link
  { r with alive := false, link := { link with activity := { stage := .new stage.name } } }

def ending (acts : LinkStep ω) : Bool :=
  acts.any fun part => part.act matches .shutdown | .drop

def act (r : LinkRehearsal ω) (fuel : Nat) : LinkAct ω → LinkRehearsal ω × LinkNote
  | .stir f =>
    let (note, reports, world) := f r.link.world
    ({ r with link := r.link.happen reports world }, note)
  | .look index =>
    let r := r.refresh
    match r.kept[index]? with
    | none => (r, .text "no waiter")
    | some n =>
      match r.waiters[n]? with
      | none => (r, .text "no waiter")
      | some w =>
        let (seen, w) := w.look
        ({ r with waiters := r.waiters.set n w }, .ofLook seen)
  | .submit e => if r.alive then (r.submit none e, .nothing) else (r, .text "no pipeline")
  | .submitWaiter request =>
    if r.alive then
      ({ r.submitWaiting request with kept := r.kept ++ [r.waiters.length] }, .nothing)
    else (r, .text "no pipeline")
  | .execute request =>
    if r.alive then
      let n := r.waiters.length
      let r := ((r.submitWaiting request).settle fuel).refresh
      (r, .ofLook ((r.waiters[n]?).bind fun w => w.look.1))
    else (r, .text "no pipeline")
  | .shutdown =>
    if r.alive then (r.shutdown .abandon fuel, .nothing) else (r, .text "no pipeline")
  | .drop =>
    if r.alive then ((r.shutdown .abandon fuel).dropLink, .nothing)
    else (r, .text "no pipeline")

def acts (r : LinkRehearsal ω) (fuel : Nat) : LinkStep ω → LinkRehearsal ω × List LinkNote
  | [] => (r, [])
  | part :: rest =>
    let link := { r.link with world := part.prepare r.link.world }
    let (r, note) := { r with link }.act fuel part.act
    let (r, notes) := r.acts fuel rest
    (r, note :: notes)

/-- The place of a record among those of a step that ends the link's work: by label, events
last. -/
def UserSight.rank (last : Nat) : UserSight → Nat
  | .completed label _ => label
  | .event _ => last

def step (r : LinkRehearsal ω) (fuel : Nat) (s : LinkStep ω) : LinkRehearsal ω × LinkReport ω :=
  let start := { r with
    seen := []
    link := { r.link with world := r.surroundings.turnPage r.link.world } }
  let (r', notes) := start.acts fuel s
  let r' := (r'.settle fuel).refresh
  (r',
    { notes
      user :=
        if ending s || r.surroundings.unordered then
          r'.seen.mergeSort fun a b =>
            UserSight.rank r'.nextLabel a ≤ UserSight.rank r'.nextLabel b
        else r'.seen
      changed := if r'.alive then some (r.link.root.published ≠ r'.link.root.published) else none
      state := r'.link.root.state
      unhandled := r'.link.sink.count.toNat
      world := r'.link.world })

/-- How much a step can cause, at most: operations, and what the world does. -/
def weight (s : LinkStep ω) : Nat :=
  weigh (fun part =>
    part.weight +
      match part.act with
      | .submit e => e.size
      | _ => 1) s

def runFrom (r : LinkRehearsal ω) (fuel : Nat) :
    List (LinkStep ω) → LinkRehearsal ω × List (LinkReport ω)
  | [] => (r, [])
  | s :: rest =>
    let (r, report) := r.step fuel s
    let (r, reports) := r.runFrom fuel rest
    (r, report :: reports)

/-- **A whole rehearsal.**  Each operation and each report is taken, handed over a few times and
told to the user at most, which bounds everything. -/
def run (r : LinkRehearsal ω) (steps : List (LinkStep ω)) : LinkRehearsal ω × List (LinkReport ω) :=
  r.runFrom (32 * (weigh weight steps + 1)) steps

end LinkRehearsal

end DeviceLink
