/-!
# Execution contexts

A device link runs on two workers.  The **pipeline** context owns all protocol state; the
**callback** context runs the code of the user.  Code carries an `Origin` that says where it runs,
and whatever is bound to one context checks it.

* `Context`, `Origin` — the two contexts, and where a piece of code says it runs.
* `Origin.check` — the guard of everything that is bound to a context.
* `DispatchFault` — why a call could not be run on a context.
-/

namespace DeviceLink

/-- One of the two workers. -/
inductive Context where
  | pipeline
  | callback
  deriving DecidableEq, Repr, Inhabited

namespace Context

def word : Context → String
  | pipeline => "pipeline"
  | callback => "callback"

def shown : Context → String
  | pipeline => "Pipeline"
  | callback => "Callback"

def threadName (c : Context) (start : String) : String :=
  start ++ "-" ++ c.word

/-- What the second entry into a cell of the context is told. -/
def reentered (c : Context) : String :=
  s!"{c.word} state accessed re-entrantly or from two threads at once"

end Context

/-- Where a piece of code says it runs: on a context, or outside both. -/
inductive Origin where
  | external
  | on (c : Context)
  deriving DecidableEq, Repr, Inhabited

namespace Origin

def current : Origin → Option Context
  | external => none
  | on c => some c

def word : Origin → String
  | external => "an external thread"
  | on c => c.word

/-- The text of the failed guard. -/
def misplaced (expected : Context) (o : Origin) : String :=
  s!"must be called on the {expected.word} context, but was called on {o.word}"

/-- Passes on the expected context only; otherwise gives the text of the broken rule. -/
def check (o : Origin) (expected : Context) : Except String Unit :=
  if o = .on expected then .ok () else .error (misplaced expected o)

end Origin

/-- Why a call was not run on a context. -/
inductive DispatchFault where
  /-- The worker has ended. -/
  | closed (c : Context)
  /-- The call was queued behind the order to stop. -/
  | dropped (c : Context)
  /-- The worker's thread could not be started. -/
  | spawn (c : Context) (reason : String)
  deriving DecidableEq, Repr

namespace DispatchFault

def context : DispatchFault → Context
  | closed c | dropped c | spawn c _ => c

def name : DispatchFault → String
  | closed _ => "Closed"
  | dropped _ => "Dropped"
  | spawn _ _ => "Spawn"

def message : DispatchFault → String
  | closed c => s!"the {c.word} context has shut down"
  | dropped c => s!"the {c.word} context dropped the call before running it"
  | spawn c _ => s!"failed to start the {c.word} worker thread"

end DispatchFault

end DeviceLink
