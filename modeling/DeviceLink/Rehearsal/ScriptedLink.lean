import DeviceLink.Rehearsal.Link
import DeviceLink.Rehearsal.Script

/-!
# A link over a scripted session

What a thread outside can do with the scripted session under a link.

* `Script.surroundings` — the scripted session as the world of a rehearsal.
* `Script.fire`, `Script.acknowledging`, `Script.dropping` — the session does something.
* `Script.part` — one thing that is done, with the plans for the calls to come.
-/

namespace DeviceLink.Script

/-- A scripted session does nothing of its own accord. -/
def surroundings : Surroundings Script where
  model := model
  turnPage s := { s with seen := [] }

def fire (report : Report) : LinkAct Script :=
  .stir fun s => if s.made = 0 then (.truth false, [], s) else (.truth true, [report], s)

def acknowledging (index : Nat) (outcome : Outcome) : LinkAct Script :=
  .stir fun s =>
    match s.takeKept index with
    | (some id, s) => (.truth true, [.acknowledged id outcome], s)
    | (none, s) => (.truth false, [], s)

def dropping : LinkAct Script := .stir fun s => (.nothing, [], s.dropKept)

/-- One thing that is done, with the plans for the calls to come. -/
def part (plans : List Plan) (act : LinkAct Script) : LinkPart Script where
  act
  prepare s := { s with plans := s.plans ++ plans }
  weight := weigh (fun p => p.reports.length + 2) plans + 1

end DeviceLink.Script
