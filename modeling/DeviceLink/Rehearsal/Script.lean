import DeviceLink.Session

/-!
# A scripted session

A session that does what it is told in advance, call by call, and keeps a record of what it was
asked.  It lets every answer and every order of reports be tried on the parts above it.

* `Plan` — what the session does in one call.
* `Script` — the plans to come, the acknowledgements that are kept, the record.
* `Script.model` — the scripted session as a session implementation.
-/

namespace DeviceLink

/-- What a scripted session does in one call. -/
structure Plan where
  /-- It reports this at once. -/
  reports : List Report := []
  /-- It brings an operation to the stage that calls it. -/
  reenter : Option Request := none
  panic : Option String := none
  /-- It acknowledges at once; otherwise the acknowledgement is kept, unless the call fails. -/
  acknowledge : Option Outcome := none
  /-- It does not start what it was asked for. -/
  error : Option Failure := none

/-- What the record of a scripted session holds. -/
inductive Sight where
  | create (args : ConnectionArgs)
  | call (c : SessionCall)
  /-- The session is gone. -/
  | dropped

/-- The state of a scripted session, and of the factory that makes it. -/
structure Script where
  /-- What the calls to come do; a call without a plan succeeds and reports nothing. -/
  plans : List Plan := []
  /-- What the factory calls to come answer; a call without an entry succeeds. -/
  factory : List (Option Failure) := []
  /-- How many sessions were made. -/
  made : Nat := 0
  /-- The acknowledgements that are kept, by the numbers of their operations; places are not used
  again. -/
  kept : List (Option Nat) := []
  seen : List Sight := []

namespace Script

def see (s : Script) (sight : Sight) : Script := { s with seen := s.seen ++ [sight] }

def create (s : Script) (args : ConnectionArgs) : Except Failure SessionId × Script :=
  let s := s.see (.create args)
  let rest := { s with factory := s.factory.drop 1 }
  match s.factory.head?.join with
  | some f => (.error f, rest)
  | none => (.ok s.made, { rest with made := s.made + 1 })

/-- A call begins: it is put on record and takes its plan. -/
def begin (s : Script) (c : SessionCall) : Plan × Script :=
  ((s.plans.head?).getD {}, { s.see (.call c) with plans := s.plans.drop 1 })

def outcome (p : Plan) : Outcome :=
  match p.error with
  | some f => .error f
  | none => .ok ()

/-- A call acknowledges at once or keeps the acknowledgement. -/
def acknowledge (s : Script) (p : Plan) (c : SessionCall) : List Report × Script :=
  match c.ackId?, p.acknowledge, p.error with
  | none, _, _ => ([], s)
  | some id, some outcome, _ => ([.acknowledged id outcome], s)
  | some _, none, some _ => ([], s)
  | some id, none, none => ([], { s with kept := s.kept ++ [some id] })

def call (s : Script) (c : SessionCall) : Answer × List Report × Script :=
  let (plan, s) := s.begin c
  match plan.panic with
  | some message => (.panicked message, plan.reports, s)
  | none =>
    let (acks, s) := s.acknowledge plan c
    (.returned (outcome plan), plan.reports ++ acks, s)

def takeKept (s : Script) (index : Nat) : Option Nat × Script :=
  ((s.kept[index]?).join, { s with kept := s.kept.set index none })

def dropKept (s : Script) : Script := { s with kept := s.kept.map fun _ => none }

/-- The scripted session as a session implementation; its calls are over in one step. -/
def model : SessionModel Script where
  create := Script.create
  step s _ c :=
    let (answer, reports, s) := s.call c
    (some answer, reports, s)
  release s _ := ([], s.see .dropped)

end Script

end DeviceLink
