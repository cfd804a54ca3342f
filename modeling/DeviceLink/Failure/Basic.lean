import DeviceLink.Context
import DeviceLink.Failure.Client
import DeviceLink.Text.Quoted

/-!
# Failures and their causes

A failure has a kind, a message and possibly a cause, which may have causes of its own.  The
report of a failure names every link of that chain.

* `Cause`, `Failure` — what caused a failure, and the failure.
* `Cause.source` — the next link of the chain.
* `Failure.report` — the failure and its whole chain in one line.
* `Failure.ofStatus`, `Failure.ofConnectCode`, `Failure.ofResultCode`, `Failure.ofDispatch` —
  failures from codes and faults.
-/

namespace DeviceLink

/-- What a failure was caused by. -/
inductive Cause where
  /-- A fault of the protocol client. -/
  | client (fault : ClientFault)
  /-- An error of the system, by its text. -/
  | io (message : String)
  /-- A call that a context did not run. -/
  | dispatch (fault : DispatchFault)
  /-- No runtime was there to drive a connection. -/
  | noRuntime
  /-- Any other error, by its text and its text for debugging. -/
  | other (message shown : String)
  /-- Any other error with a cause of its own, such as one of the system that wraps another. -/
  | otherFrom (message shown : String) (cause : Cause)
  /-- A failure without a cause. -/
  | failure (kind : Failure.Kind) (message : String)
  /-- A failure with a cause of its own. -/
  | failureFrom (kind : Failure.Kind) (message : String) (cause : Cause)
  deriving DecidableEq, Repr

/-- A failure of any part of the link. -/
structure Failure where
  kind : Failure.Kind
  message : String
  cause : Option Cause := none
  deriving DecidableEq, Repr, Inhabited

namespace Cause

def message : Cause → String
  | client fault => fault.message
  | io text => text
  | dispatch fault => fault.message
  | noRuntime =>
    "there is no reactor running, must be called from the context of a Tokio 1.x runtime"
  | other text _ | otherFrom text _ _ => text
  | failure kind text | failureFrom kind text _ => kind.name ++ ": " ++ text

/-- The next link of the chain. -/
def source : Cause → Option Cause
  | client _ | io _ | noRuntime | other _ _ | failure _ _ => none
  | dispatch (.spawn _ reason) => some (io reason)
  | dispatch (.closed _) | dispatch (.dropped _) => none
  | otherFrom _ _ cause | failureFrom _ _ cause => some cause

/-- The number of links from a cause on. -/
def depth : Cause → Nat
  | client _ | io _ | noRuntime | other _ _ | failure _ _ => 1
  | dispatch (.spawn _ _) => 2
  | dispatch (.closed _) | dispatch (.dropped _) => 1
  | otherFrom _ _ cause | failureFrom _ _ cause => cause.depth + 1

/-- The next link stands at the head of a shorter chain. -/
theorem depth_source (c : Cause) : c.depth = c.source.elim 0 depth + 1 := by
  match c with
  | client _ | io _ | noRuntime | other _ _ | failure _ _
  | dispatch (.closed _) | dispatch (.dropped _) | dispatch (.spawn _ _)
  | otherFrom _ _ _ | failureFrom _ _ _ => rfl

def client? : Cause → Option ClientFault
  | client fault => some fault
  | _ => none

/-! ## Shown for debugging -/

/-- A system error made from a text. -/
def shownIo (text : String) : String :=
  Text.record "Custom" [("kind", "Other"), ("error", Text.quoted text)]

def shownDispatch : DispatchFault → String
  | .closed c => Text.variant "Closed" c.shown
  | .dropped c => Text.variant "Dropped" c.shown
  | .spawn c reason => Text.record "Spawn" [("context", c.shown), ("source", shownIo reason)]

/-- The fields of a failure, its cause already shown. -/
def shownFailure (kind : Failure.Kind) (text : String) (cause : Option String) : String :=
  Text.record "Error"
    [("kind", kind.name), ("message", Text.quoted text), ("cause", Text.optional cause)]

def shown : Cause → String
  | client fault => fault.shown
  | io text => shownIo text
  | dispatch fault => shownDispatch fault
  | noRuntime => "TryCurrentError \x7b kind: NoContext \x7d"
  | other _ shown | otherFrom _ shown _ => shown
  | failure kind text => shownFailure kind text none
  | failureFrom kind text cause => shownFailure kind text (some cause.shown)

end Cause

namespace Failure

/-! ## Building failures -/

/-- A failure of the link itself. -/
def pipeline (message : String) : Failure := ⟨.pipeline, message, none⟩

def withCause (f : Failure) (cause : Cause) : Failure := { f with cause := some cause }

def withMessage (f : Failure) (message : String) : Failure := { f with message }

def toCause (f : Failure) : Cause :=
  match f.cause with
  | none => .failure f.kind f.message
  | some cause => .failureFrom f.kind f.message cause

/-- A service's status code; the message is kept as it is. -/
def ofStatus (code : Nat) (message : String) : Failure := ⟨.ofStatus code, message, none⟩

def ofClient (fault : ClientFault) : Failure := ⟨fault.kind, fault.message, some (.client fault)⟩

def ofConnectCode (code : Nat) : Failure := ofClient (.ofConnectCode code)

def ofResultCode (code : Int) : Failure := ofClient (.ofResultCode code)

def ofDispatch (fault : DispatchFault) : Failure :=
  (pipeline s!"dispatcher unavailable: {fault.message}").withCause (.dispatch fault)

/-! ## Reading failures -/

def display (f : Failure) : String := f.kind.name ++ ": " ++ f.message

def linkOf (text : String) : String := " (caused by: " ++ text ++ ")"

def reportLink (c : Cause) : String := linkOf c.message

/-- A report so far, with the links that are left. -/
def reportFrom (text : String) (next : Option Cause) : String :=
  match next with
  | none => text
  | some c => reportFrom (text ++ reportLink c) c.source
termination_by next.elim 0 Cause.depth
decreasing_by
  rw [Option.elim_some, c.depth_source]
  exact Nat.lt_succ_self _

/-- **The report.**  The failure in one line, followed by every link of its chain. -/
def report (f : Failure) : String := reportFrom f.display f.cause

/-- The fault of the protocol client, when it is the direct cause. -/
def clientFault? (f : Failure) : Option ClientFault := f.cause.bind Cause.client?

def shown (f : Failure) : String := Cause.shownFailure f.kind f.message (f.cause.map Cause.shown)

end Failure

abbrev Outcome := Except Failure Unit

instance : DecidableEq Outcome
  | .ok (), .ok () => isTrue rfl
  | .error f, .error g =>
    if h : f = g then isTrue (h ▸ rfl) else isFalse fun e => h (Except.error.inj e)
  | .ok (), .error _ => isFalse nofun
  | .error _, .ok () => isFalse nofun

end DeviceLink
