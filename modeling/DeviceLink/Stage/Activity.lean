import DeviceLink.Stage.Turn

/-!
# A stage among others

Whenever a stage hands something over, control is in foreign code, and foreign code may come back
into the stage before it returns, to any depth.  So a stage at work is a stack: what each level
has handed over and what it does next.  What foreign code does is not for the stage to choose: it
comes in as a list of moves, and every list of moves is a possible run.

* `Activity` — a stage with everything it has handed over and not got back.
* `Move` — what foreign code does.
* `Activity.step`, `Activity.run` — one move, and a list of them.
-/

namespace DeviceLink

/-- A stage at work: the innermost level stands first. -/
structure Activity (κ : Type) where
  stage : Stage κ
  levels : List (Ask κ × Frame κ) := []
  deriving DecidableEq, Repr

/-- What whoever has control does. -/
inductive Move (κ : Type) where
  /-- It brings an operation. -/
  | enter (o : Origin) (op : Operation κ)
  /-- It takes a report of the session from the queue. -/
  | deliver (r : Report)
  /-- It has everything given up. -/
  | abandon (o : Origin)
  /-- It returns. -/
  | proceed
  /-- It returns with a session, or without. -/
  | created (result : Except Failure SessionId)
  /-- It returns from a call of the session. -/
  | answered (outcome : Outcome)
  /-- It panics. -/
  | panic (message : String)
  deriving Repr

namespace Activity

variable {κ : Type}

/-- What the innermost level has handed over. -/
def asked? (a : Activity κ) : Option (Ask κ) := a.levels.head?.map (·.1)

/-- Every operation that the stage holds or has in hand, the innermost level first. -/
def operations (a : Activity κ) : List (Operation κ) :=
  a.levels.flatMap (fun l => l.1.operations ++ l.2.operations) ++ a.stage.pending

/-- **A panic unwinds everything.**  Whoever is inside the cell leaves it, and a session on its
way out goes. -/
def unwind (s : Stage κ) (message : String) (levels : List (Ask κ × Frame κ)) :
    Activity κ × List (Trace κ) :=
  let held := levels.any (·.2.holdsCell)
  ({ stage := { s with entered := s.entered && !held } },
    levels.filterMap (fun l => l.2.session?.map Trace.gone) ++ [.panic message])

/-- What comes of a stretch of work above some levels. -/
def settle (levels : List (Ask κ × Frame κ)) (t : Turn κ) : Activity κ × List (Trace κ) :=
  match t.next with
  | .done => ({ stage := t.stage, levels }, t.traces)
  | .ask a frame => ({ stage := t.stage, levels := (a, frame) :: levels }, t.traces ++ [.ask a])
  | .panic message =>
    let (activity, traces) := unwind t.stage message levels
    (activity, t.traces ++ traces)

/-- **One move**, with what can be seen of it; none if the move is not the innermost level's. -/
def step (a : Activity κ) : Move κ → Option (Activity κ × List (Trace κ))
  | .enter o op => some (settle a.levels (a.stage.run o op))
  | .deliver r => some (settle a.levels (a.stage.report r))
  | .abandon o => some (settle a.levels (a.stage.abandon o))
  | .proceed =>
    match a.levels with
    | [] => none
    | (_, frame) :: below => (a.stage.proceed frame).map (settle below)
  | .created result =>
    match a.levels with
    | [] => none
    | (_, frame) :: below => (a.stage.created result frame).map (settle below)
  | .answered outcome =>
    match a.levels with
    | [] => none
    | (_, frame) :: below => (a.stage.answered outcome frame).map (settle below)
  | .panic message => some (unwind a.stage message a.levels)

/-- A list of moves; one that is not the innermost level's is passed over. -/
def run (a : Activity κ) : List (Move κ) → Activity κ × List (Trace κ)
  | [] => (a, [])
  | m :: rest =>
    match a.step m with
    | none => a.run rest
    | some (next, traces) =>
      let (last, more) := next.run rest
      (last, traces ++ more)

end Activity

end DeviceLink
