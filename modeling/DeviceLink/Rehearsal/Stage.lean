import DeviceLink.Dispatch.Mailbox
import DeviceLink.Rehearsal.Errand
import DeviceLink.Rehearsal.Script
import DeviceLink.Rehearsal.Weight
import DeviceLink.Stage.Activity
import DeviceLink.Unhandled

/-!
# Rehearsing a stage

A stage with a scripted session under it and, above it, a chain that records what it is handed and
brings further operations when one is over.  The steps of a rehearsal come from one thread outside;
after each step everything that it has caused is over.

* `StageStep` — one step.
* `StageRehearsal.run` — a list of steps, with what could be seen of each.
-/

namespace DeviceLink

/-- What a rehearsed operation carries for its end: its label, and what comes next. -/
structure Tag where
  label : Option Nat
  next : List Errand

/-- What the chain and the session record. -/
inductive StageSight where
  | chain (c : ChainCall Tag)
  | session (s : Sight)

/-- One thing that happens to a rehearsed stage. -/
inductive StageAct where
  /-- An operation is brought by the pipeline's worker. -/
  | run (errand : Errand)
  /-- An operation is brought on the spot, by code that says where it is. -/
  | runAs (o : Origin) (errand : Errand)
  /-- The session reports. -/
  | fire (r : Report)
  /-- A kept acknowledgement is used. -/
  | acknowledge (index : Nat) (outcome : Outcome)
  /-- The kept acknowledgements go. -/
  | dropKept
  | abandon
  /-- The stage goes, with its session. -/
  | dropStage
  /-- The workers are stopped. -/
  | shutdown

/-- A step: plans for the calls to come, and what happens. -/
structure StageStep where
  plans : List Plan := []
  act : StageAct

/-- A remark on a step. -/
inductive Note where
  | truth (b : Bool)
  | text (s : String)

/-- What could be seen of a step. -/
structure StageReport where
  sights : List StageSight
  messages : List LogLine
  /-- Failures nobody waited for, so far. -/
  unhandled : Nat
  note : Option Note
  panic : Option String

/-- What foreign code does while it has control. -/
inductive Deed where
  /-- It brings an errand. -/
  | bring (e : Errand)
  /-- It brings an operation from inside a call of the session. -/
  | reenter (r : Request)
  /-- It acknowledges a call or keeps the acknowledgement. -/
  | acknowledge (p : Plan) (c : SessionCall)
  /-- It returns, or panics. -/
  | move (m : Move Tag)

/-- A stage under rehearsal. -/
structure StageRehearsal where
  activity : Activity Tag
  /-- What the foreign code of each level has left to do, the innermost first. -/
  deeds : List (List Deed) := []
  sink : Unhandled
  script : Script := {}
  boxes : Dispatch.PerContext (Dispatch.Mailbox Report) := .both {}
  /-- The stage has not been dropped. -/
  alive : Bool := true
  /-- Everything is being given up. -/
  abandoning : Bool := false
  nextId : Nat := 1
  nextLabel : Nat := 0
  sights : List StageSight := []
  messages : List LogLine := []
  /-- The panic that ended the last activity. -/
  panic : Option String := none

namespace StageRehearsal

def new (name : String) (capacity : Nat) (factory : List (Option Failure)) : StageRehearsal :=
  { activity := { stage := .new name }
    sink := .ofCapacity capacity
    script := { factory } }

/-! ## Records -/

def see (r : StageRehearsal) (sight : StageSight) : StageRehearsal :=
  { r with sights := r.sights ++ [sight] }

def write (r : StageRehearsal) (line : LogLine) : StageRehearsal :=
  { r with messages := r.messages ++ [line] }

/-- Copies what the script has seen since into the record of the step. -/
def setScript (r : StageRehearsal) (s : Script) : StageRehearsal :=
  { r with script := { s with seen := [] }, sights := r.sights ++ s.seen.map .session }

def post (r : StageRehearsal) (report : Report) : StageRehearsal :=
  match (r.boxes.get .pipeline).send? report with
  | some box => { r with boxes := r.boxes.set .pipeline box }
  | none => r

/-! ## Foreign code -/

/-- What foreign code does with what it is handed. -/
def receive (r : StageRehearsal) : Ask Tag → StageRehearsal × List Deed
  | .chain c =>
    let next := match c with
      | .complete op => if r.abandoning then [] else (op.callback.map Tag.next).getD []
      | .pass _ | .event _ | .connected | .disconnected => []
    (r.see (.chain c), next.map Deed.bring ++ [.move .proceed])
  | .create args =>
    let (result, script) := r.script.create args
    (r.setScript script, [.move (.created result)])
  | .call _ c =>
    let (plan, script) := r.script.begin c
    let r := plan.reports.foldl post (r.setScript script)
    (r, (plan.reenter.map Deed.reenter).toList ++
      match plan.panic with
      | some message => [.move (.panic message)]
      | none => [.acknowledge plan c, .move (.answered (Script.outcome plan))])
  | .release _ => (r.see (.session .dropped), [.move .proceed])

/-- Takes note of what a move has left behind. -/
def notice (r : StageRehearsal) : Trace Tag → StageRehearsal
  | .log line => r.write line
  | .unhandled f => { r with sink := r.sink.report f }.write (.error (Unhandled.line f))
  | .gone _ => r.see (.session .dropped)
  | .panic message => { r with panic := some message }
  | .ask _ => r

def move (r : StageRehearsal) (m : Move Tag) : StageRehearsal :=
  match r.activity.step m with
  | none => r
  | some (activity, traces) =>
    let r := traces.foldl notice { r with activity }
    if r.panic.isSome then { r with deeds := [] }
    else if activity.levels.length < r.deeds.length then
      { r with deeds := r.deeds.drop 1 }
    else r

/-- The foreign code of a level that has just been reached takes over. -/
def takeOver (r : StageRehearsal) : StageRehearsal :=
  match r.activity.asked? with
  | some ask =>
    if r.deeds.length < r.activity.levels.length then
      let (r, deeds) := r.receive ask
      { r with deeds := deeds :: r.deeds }
    else r
  | none => r

def operation (r : StageRehearsal) (label : Option Nat) (e : Errand) :
    Operation Tag × StageRehearsal :=
  ({ id := r.nextId, request := e.request, callback := some ⟨label, e.next⟩ },
    { r with nextId := r.nextId + 1 })

def labelled (r : StageRehearsal) (e : Errand) : Operation Tag × StageRehearsal :=
  { r with nextLabel := r.nextLabel + 1 }.operation (some r.nextLabel) e

def perform (r : StageRehearsal) : Deed → StageRehearsal
  | .bring e =>
    let (op, r) := r.labelled e
    r.move (.enter (.on .pipeline) op)
  | .reenter request =>
    let (op, r) := r.operation none ({ request })
    r.move (.enter (.on .pipeline) op)
  | .acknowledge plan c =>
    let (reports, script) := r.script.acknowledge plan c
    reports.foldl post (r.setScript script)
  | .move m => r.move m

/-- Lets foreign code and stage go on until control is back with the worker. -/
def drive (r : StageRehearsal) : (fuel : Nat) → StageRehearsal
  | 0 => r
  | fuel + 1 =>
    let r := r.takeOver
    match r.deeds with
    | [] => r
    | [] :: below => { r with deeds := below }.drive fuel
    | (d :: rest) :: below =>
      -- a level's last deed is its return, which takes the level away
      drive (perform { r with deeds := rest :: below } d) fuel

def act (r : StageRehearsal) (fuel : Nat) (m : Move Tag) : StageRehearsal :=
  ({ r with panic := none }.move m).drive fuel

/-! ## The worker -/

def take (r : StageRehearsal) (fuel : Nat) (report : Report) : StageRehearsal :=
  if r.alive then
    let r := r.act fuel (.deliver report)
    match r.panic with
    | some message => { r with panic := none }.write (.error (Unhandled.lineOf message))
    | none => r
  else r.write (.debug "protocol stage dropped, ignoring session callback")

/-- The worker takes what is queued until nothing is. -/
def settle (r : StageRehearsal) (each : Nat) : (fuel : Nat) → StageRehearsal
  | 0 => r
  | fuel + 1 =>
    match (r.boxes.get .pipeline).turn with
    | .job report box =>
      (({ r with boxes := r.boxes.set .pipeline box }).take each report).settle each fuel
    | .stop _ | .exit _ _ | .none => r

def stop (r : StageRehearsal) (c : Context) : StageRehearsal :=
  let box := r.boxes.get c
  match box.phase with
  | .exited => r
  | .running | .stopped =>
    ({ r with boxes := r.boxes.set c { box with queue := [], phase := .exited } }.write
      (Dispatch.stopLine c)).write (Dispatch.joinedLine c)

/-! ## Steps -/

/-- What happens in a step, before everything that it has caused is over. -/
def happen (r : StageRehearsal) (fuel : Nat) : StageAct → StageRehearsal × Option Note
  | .run e =>
    if !r.alive then (r, some (.text "no stage"))
    else
      -- an operation that is refused has had its label
      let (op, r) := r.labelled e
      if (r.boxes.get .pipeline).phase = .exited then
        (r, some (.text (DispatchFault.closed .pipeline).message))
      else (r.act fuel (.enter (.on .pipeline) op), none)
  | .runAs o e =>
    if !r.alive then (r, some (.text "no stage"))
    else
      let (op, r) := r.labelled e
      (r.act fuel (.enter o op), none)
  | .fire report =>
    (if r.script.made = 0 then r else r.post report, some (.truth (r.script.made ≠ 0)))
  | .acknowledge index outcome =>
    let (id, script) := r.script.takeKept index
    let r := { r with script }
    match id with
    | some id => (r.post (.acknowledged id outcome), some (.truth true))
    | none => (r, some (.truth false))
  | .dropKept => ({ r with script := r.script.dropKept }, none)
  | .abandon =>
    if !r.alive then (r, some (.text "no stage"))
    else if (r.boxes.get .pipeline).phase = .exited then
      (r, some (.text (DispatchFault.closed .pipeline).message))
    else
      ({ { r with abandoning := true }.act fuel (.abandon (.on .pipeline)) with
        abandoning := false }, none)
  | .dropStage =>
    let sights := r.activity.stage.session.toList.map fun _ => StageSight.session .dropped
    ({ r with
        alive := false
        activity := { stage := .new r.activity.stage.name }
        sights := r.sights ++ if r.alive then sights else [] },
      some (.truth r.alive))
  | .shutdown => ((r.stop .pipeline).stop .callback, none)

def step (r : StageRehearsal) (fuel : Nat) (s : StageStep) : StageRehearsal × StageReport :=
  let start := { r with
    script := { r.script with plans := r.script.plans ++ s.plans }
    sights := [], messages := [], panic := none }
  let (r, note) := start.happen fuel s.act
  let panic := r.panic
  let r := { r with panic := none }.settle fuel fuel
  (r,
    { sights := r.sights
      messages := r.messages
      unhandled := r.sink.count.toNat
      note
      panic })

/-- How much a step can cause, at most: operations and reports. -/
def weight (s : StageStep) : Nat :=
  weigh (fun p : Plan => p.reports.length + 2) s.plans + 1 +
    match s.act with
    | .run e | .runAs _ e => e.size
    | .fire _ | .acknowledge _ _ | .dropKept | .abandon | .dropStage | .shutdown => 1

def runFrom (r : StageRehearsal) (fuel : Nat) : List StageStep → StageRehearsal × List StageReport
  | [] => (r, [])
  | s :: rest =>
    let (r, report) := r.step fuel s
    let (r, reports) := r.runFrom fuel rest
    (r, report :: reports)

/-- **A whole rehearsal.**  Each operation and each report hands over a few times at most, which
bounds everything. -/
def run (r : StageRehearsal) (steps : List StageStep) : StageRehearsal × List StageReport :=
  r.runFrom (32 * (weigh weight steps + 1)) steps

end StageRehearsal

end DeviceLink
