import DeviceLink.Stage.Basic

/-!
# The stage's own work

What a stage does from the moment control reaches it until it hands something to its surroundings
or is done.  Nothing in here waits, and nothing in here calls anybody.

* `Stage.run` — an operation arrives.
* `Stage.report` — the session reports.
* `Stage.abandon` — everything is given up.
* `Stage.proceed`, `Stage.created`, `Stage.answered` — the surroundings return.
-/

namespace DeviceLink

namespace Stage

variable {κ : Type}

/-! ## Words -/

/-- An operation that needs a session has come before there is one. -/
def noSession (op : Operation κ) : Failure :=
  .pipeline s!"{op.name} issued before SetConnectionArgs: no session exists"

/-- A second session is wanted. -/
def alreadySet : Failure :=
  .pipeline "connection args already set: the session is created only once"

def superseded (newer : Operation κ) : Failure :=
  .pipeline s!"superseded: cancelled because a new {newer.name} operation was issued"

/-- The link was shut down under an operation. -/
def cancelled : Failure :=
  ⟨.operationCancelled, "pipeline shut down before the operation completed", none⟩

def ackName : Request → String
  | .publish _ _ => "PUBACK"
  | .subscribe _ => "SUBACK"
  | .unsubscribe _ => "UNSUBACK"
  | _ => "ACK"

/-! ## Pieces -/

/-- Work inside the cell; a second entry panics. -/
def inside (s : Stage κ) (t : Turn κ) : Turn κ :=
  if s.entered then { stage := s, next := .panic Context.pipeline.reentered } else t

/-- Hands a finished operation to the chain, and has nothing left to do. -/
def complete (s : Stage κ) (op : Operation κ) : Turn κ :=
  { stage := s, next := .ask (.chain (.complete op)) .last }

def refuse (s : Stage κ) (op : Operation κ) (f : Failure) : Turn κ :=
  (s.complete (op.fail f)).logging (.warn (s.about op s!"failed to start: {f.display}"))

/-! ## Session and credential -/

/-- Wants a session, unless there is one. -/
def setConnectionArgs (s : Stage κ) (op : Operation κ) (args : ConnectionArgs) : Turn κ :=
  .logging (.info (s.about op "got connection args")) <| s.inside <|
    match s.session with
    | some _ => s.complete (op.fail alreadySet)
    | none => { stage := s, next := .ask (.create args) (.creating op args) }

/-- Keeps a credential for the connection attempts to come. -/
def setCredential (s : Stage κ) (op : Operation κ) (credential : Credential) : Turn κ :=
  .logging (.info (s.about op s!"got {credential.word}")) <| s.inside <|
    { s with credential := some credential }.complete op

/-! ## Operations on the connection -/

/-- Puts the operation into its slot, over whatever is there, and has the session start. -/
def startConnection (s : Stage κ) (aim : Aim) (op : Operation κ) : Turn κ :=
  s.inside <|
    match s.session with
    | none => (s.setSlot aim.slot none).refuse op (noSession op)
    | some session =>
      { stage := { s.setSlot aim.slot (some op) with entered := true }
        next := .ask (.call session (s.callFor aim)) (.starting aim.slot) }

/-- Fails the operations that a new one supersedes, then starts the new one. -/
def supersede (s : Stage κ) (aim : Aim) (op : Operation κ) : List (Operation κ) → Turn κ
  | [] => s.startConnection aim op
  | old :: left =>
    { stage := s
      traces := [.log (.info (s.about old s!"cancelling, superseded by {op.name}"))]
      next := .ask (.chain (.complete (old.fail (superseded op)))) (.superseding left aim op) }

def active (s : Stage κ) : List (Operation κ) :=
  s.activeConnect.toList ++ s.activeDisconnect.toList

/-- Empties both slots and goes on with what was in them. -/
def runConnection (s : Stage κ) (aim : Aim) (op : Operation κ) : Turn κ :=
  .logging (.info (s.about op aim.word)) <| s.inside <|
    { s with activeConnect := none, activeDisconnect := none }.supersede aim op s.active

/-! ## Requests that are acknowledged -/

/-- Lets the operation wait under its number and has the session start. -/
def runRequest (s : Stage κ) (op : Operation κ) (c : SessionCall) (text : String) : Turn κ :=
  .logging (.info (s.about op text)) <| s.inside <|
    match s.session with
    | none => s.refuse op (noSession op)
    | some session =>
      { stage := { s.await op with entered := true }
        next := .ask (.call session c) (.requesting op.id) }

/-- **An operation arrives.** -/
def run (s : Stage κ) (o : Origin) (op : Operation κ) : Turn κ :=
  match o.check .pipeline with
  | .error text => { stage := s, next := .panic text }
  | .ok () =>
    match op.request with
    | .setConnectionArgs args => s.setConnectionArgs op args
    | .setCredential credential => s.setCredential op credential
    | .connect => s.runConnection .connect op
    | .reconnect => s.runConnection .reconnect op
    | .disconnect => s.runConnection .disconnect op
    | .publish topic payload =>
      s.runRequest op (.publish op.id topic payload) s!"publishing on {topic}"
    | .subscribe topic => s.runRequest op (.subscribe op.id topic) s!"subscribing to {topic}"
    | .unsubscribe topic =>
      s.runRequest op (.unsubscribe op.id topic) s!"unsubscribing from {topic}"
    | .enableFeature _ | .disableFeature _ =>
      { stage := s
        traces := [.log (.debug (s.about op "passing down"))]
        next := .ask (.chain (.pass op)) .last }

/-! ## Reports -/

/-- The connection attempt failed: so does the operation that waits for it. -/
def connectionFailed (s : Stage κ) (cause : Failure) : Turn κ :=
  .logging (.error s!"{s.name}: connection failure: {cause.display}") <| s.inside <|
    match s.activeConnect with
    | some op =>
      ({ s with activeConnect := none }.complete (op.fail cause)).logging
        (.info (s.about op "failing connect op"))
    | none =>
      { stage := s
        traces :=
          [.log (.warn s!"{s.name}: connection failure was unexpected"), .unhandled cause] }

/-- The connection is up and everybody knows: the operation that waits for it is over. -/
def announced (s : Stage κ) : Turn κ :=
  s.inside <|
    match s.activeConnect with
    | some op =>
      ({ s with activeConnect := none }.complete op).logging
        (.info (s.about op "completing connect op"))
    | none =>
      { stage := s, traces := [.log (.warn s!"{s.name}: connection was unexpected")] }

/-- The connection is down and everybody knows: the operation that waits for it is over. -/
def retired (s : Stage κ) (cause : Option Failure) : Turn κ :=
  s.inside <|
    match s.activeDisconnect with
    | some op =>
      ({ s with activeDisconnect := none }.complete ((cause.map op.fail).getD op)).logging
        (.info (s.about op "completing disconnect op"))
    | none =>
      { stage := s
        traces := .log (.warn s!"{s.name}: disconnection was unexpected") ::
          cause.toList.map Trace.unhandled }

def disconnectedLine (s : Stage κ) : Option Failure → LogLine
  | some cause => .warn s!"{s.name}: disconnected: {cause.display}"
  | none => .info s!"{s.name}: disconnected"

/-- An acknowledgement completes the operation that waits under its number. -/
def acknowledged (s : Stage κ) (id : Nat) (outcome : Outcome) : Turn κ :=
  s.inside <|
    match s.awaiting? id with
    | none =>
      { stage := s
        traces := [.log (.warn s!"{s.name}: acknowledgement for unknown operation {id}")] }
    | some op =>
      match outcome with
      | .ok () =>
        ((s.forget id).complete op).logging
          (.info (s.about op s!"{ackName op.request} received. completing op."))
      | .error f =>
        ((s.forget id).complete (op.fail f)).logging
          (.warn (s.about op s!"not acknowledged: {f.display}"))

/-- **The session reports.** -/
def report (s : Stage κ) : Report → Turn κ
  | .connected =>
    { stage := s
      traces := [.log (.info s!"{s.name}: connected")]
      next := .ask (.chain .connected) .announced }
  | .connectionFailed cause => s.connectionFailed cause
  | .disconnected cause =>
    { stage := s
      traces := [.log (s.disconnectedLine cause)]
      next := .ask (.chain .disconnected) (.retired cause) }
  | .message topic payload =>
    { stage := s
      traces :=
        [.log (.debug s!"{s.name}: message received on {topic} ({payload.length} bytes)")]
      next := .ask (.chain (.event (.incomingMessage topic payload))) .last }
  | .acknowledged id outcome => s.acknowledged id outcome

/-! ## Giving up -/

/-- Cancels what is left and lets the session go last. -/
def abandonRest (s : Stage κ) (session : Option SessionId) : List (Operation κ) → Turn κ
  | [] =>
    match session with
    | none => { stage := s }
    | some session => { stage := s, next := .ask (.release session) .last }
  | op :: left =>
    { stage := s, next := .ask (.chain (.complete (op.fail cancelled))) (.abandoning left session) }

/-- Every operation that is kept, in the order in which they are given up.  For those that wait for
an acknowledgement that is the order in which they came; another order changes nothing but the order
in which they are cancelled. -/
def pending (s : Stage κ) : List (Operation κ) := s.active ++ s.awaitingAck.map (·.2)

/-- The line that says how much is given up, if anything is. -/
def abandonLines (s : Stage κ) : List (Trace κ) :=
  if s.pending.isEmpty then []
  else
    [.log (.info
      s!"{s.name}: cancelling {s.pending.length} pending operation(s) on shutdown")]

/-- **Everything is given up.** -/
def abandon (s : Stage κ) (o : Origin) : Turn κ :=
  match o.check .pipeline with
  | .error text => { stage := s, next := .panic text }
  | .ok () =>
    s.inside <| .after s.abandonLines <|
      { s with
        session := none
        activeConnect := none
        activeDisconnect := none
        awaitingAck := [] }.abandonRest s.session s.pending

/-! ## The surroundings return -/

/-- The chain is done with what it was handed, or a session is gone. -/
def proceed (s : Stage κ) : Frame κ → Option (Turn κ)
  | .last => some { stage := s }
  | .superseding left aim op => some (s.supersede aim op left)
  | .replacing op => some ({ s with entered := false }.complete op)
  | .announced => some s.announced
  | .retired cause => some (s.retired cause)
  | .abandoning left session => some (s.abandonRest session left)
  | .creating _ _ | .starting _ | .requesting _ => none

/-- A session was made, or was not; one that was there goes. -/
def created (s : Stage κ) (result : Except Failure SessionId) : Frame κ → Option (Turn κ)
  | .creating op args =>
    match result with
    | .error f =>
      some ((s.complete (op.fail f)).logging
        (.error (s.about op s!"failed to create session: {f.display}")))
    | .ok session =>
      some <| .logging
        (.debug s!"{s.name}: session created for {args.clientId} on {args.hostname}") <|
        s.inside <|
          let kept := { s with args := some args, session := some session }
          match s.session with
          | none => kept.complete op
          | some old =>
            { stage := { kept with entered := true }
              next := .ask (.release old) (.replacing op) }
  | .last | .superseding _ _ _ | .replacing _ | .starting _ | .requesting _ | .announced
  | .retired _ | .abandoning _ _ => none

/-- The session has answered a call; what it did not start is over at once. -/
def answered (s : Stage κ) (outcome : Outcome) : Frame κ → Option (Turn κ)
  | .starting slot =>
    let left := { s with entered := false }
    match outcome, s.slot slot with
    | .error f, some op => some ((left.setSlot slot none).refuse op f)
    | .error _, none | .ok (), _ => some { stage := left }
  | .requesting id =>
    let left := { s with entered := false }
    match outcome, s.awaiting? id with
    | .error f, some op => some ((left.forget id).refuse op f)
    | .error _, none | .ok (), _ => some { stage := left }
  | .last | .superseding _ _ _ | .creating _ _ | .replacing _ | .announced | .retired _
  | .abandoning _ _ => none

end Stage

end DeviceLink
