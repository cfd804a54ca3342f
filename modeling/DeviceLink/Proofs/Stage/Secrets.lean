import DeviceLink.Root
import DeviceLink.Stage.Activity
import DeviceLink.Transport.Client
import Mathlib.Data.String.Basic
import Mathlib.Tactic.Common

/-!
# What a stage does without looking at secrets

Tokens and private keys are secrets, and of a certificate no more is known than how long it is.  The
veil hides all of that.  What a stage does commutes with the veil: a stage that never had the
secrets does the same, and says the same.

* `Credential.veil`, `Operation.veil`, … — what is left when secrets are hidden.
* **`Credential.veil_eq_iff`**, `Request.veil_eq_iff` — what looks the same under the veil.
* **`Operation.shown_veil`**, **`ClientAuth.shown_veil`** — what is shown for debugging shows no
  more.
* **`Stage.veil_run`**, **`veil_report`**, … — every stretch of work commutes with the veil.
* **`veil_step`**, **`Activity.veil_run`** — so does every move, and every list of moves.
* **`Root.handle_veil`** — and what the root causes is the same.
-/

namespace DeviceLink

variable {κ : Type}

/-! ## The veil -/

/-- A text of so many bytes. -/
def blank (size : Nat) : String := String.ofList (List.replicate size '-')

@[simp] lemma utf8ByteSize_blank (size : Nat) : (blank size).utf8ByteSize = size := by
  have hone : ('-' : Char).utf8Size = 1 := by decide
  rw [blank, String.utf8ByteSize_ofList]
  induction size with
  | zero => rfl
  | succ size ih => rw [List.replicate_succ, String.utf8Len_cons, ih, hone]

/-- Of a certificate its length is left, and of its key nothing. -/
def ClientCertificate.veil (c : ClientCertificate) : ClientCertificate :=
  ⟨blank c.certificate.utf8ByteSize, ""⟩

/-- Of a token nothing is left. -/
def Credential.veil : Credential → Credential
  | sasToken _ => .sasToken ""
  | certificate cert => .certificate cert.veil

def Request.veil : Request → Request
  | setCredential credential => setCredential credential.veil
  | setConnectionArgs args => setConnectionArgs args
  | connect => connect
  | reconnect => reconnect
  | disconnect => disconnect
  | publish topic payload => publish topic payload
  | subscribe topic => subscribe topic
  | unsubscribe topic => unsubscribe topic
  | enableFeature feature => enableFeature feature
  | disableFeature feature => disableFeature feature

def Operation.veil (op : Operation κ) : Operation κ := { op with request := op.request.veil }

/-- Of a password it is left whether there is one. -/
def SessionCall.veil : SessionCall → SessionCall
  | connect password certificate =>
    connect (password.map fun _ => "") (certificate.map ClientCertificate.veil)
  | reconnect password => reconnect (password.map fun _ => "")
  | disconnect => disconnect
  | publish id topic payload => publish id topic payload
  | subscribe id topic => subscribe id topic
  | unsubscribe id topic => unsubscribe id topic

def ChainCall.veil : ChainCall κ → ChainCall κ
  | complete op => complete op.veil
  | pass op => pass op.veil
  | event e => event e
  | connected => connected
  | disconnected => disconnected

def Ask.veil : Ask κ → Ask κ
  | chain c => chain c.veil
  | create args => create args
  | call session c => call session c.veil
  | release session => release session

def Frame.veil : Frame κ → Frame κ
  | superseding left aim op => superseding (left.map Operation.veil) aim op.veil
  | creating op args => creating op.veil args
  | replacing op => replacing op.veil
  | abandoning left session => abandoning (left.map Operation.veil) session
  | last => last
  | starting slot => starting slot
  | requesting id => requesting id
  | announced => announced
  | retired cause => retired cause

def Trace.veil : Trace κ → Trace κ
  | ask a => ask a.veil
  | log line => log line
  | unhandled f => unhandled f
  | gone session => gone session
  | panic message => panic message

def Next.veil : Next κ → Next κ
  | ask a frame => ask a.veil frame.veil
  | done => done
  | panic message => panic message

def Stage.veil (s : Stage κ) : Stage κ :=
  { s with
    credential := s.credential.map Credential.veil
    activeConnect := s.activeConnect.map Operation.veil
    activeDisconnect := s.activeDisconnect.map Operation.veil
    awaitingAck := s.awaitingAck.map fun p => (p.1, p.2.veil) }

def Turn.veil (t : Turn κ) : Turn κ :=
  { stage := t.stage.veil, traces := t.traces.map Trace.veil, next := t.next.veil }

def Move.veil : Move κ → Move κ
  | enter o op => enter o op.veil
  | deliver r => deliver r
  | abandon o => abandon o
  | proceed => proceed
  | created result => created result
  | answered outcome => answered outcome
  | panic message => panic message

def Activity.veil (a : Activity κ) : Activity κ :=
  { stage := a.stage.veil, levels := a.levels.map fun l => (l.1.veil, l.2.veil) }

/-! ## What is left -/

lemma blank_inj {m n : Nat} : blank m = blank n ↔ m = n := by
  constructor
  · intro h
    rw [← utf8ByteSize_blank m, h, utf8ByteSize_blank]
  · rintro rfl
    rfl

/-- **Which credentials look the same**: all tokens, and certificates that are as long as each
other. -/
theorem Credential.veil_eq_iff {c d : Credential} :
    c.veil = d.veil ↔
      (∃ token other, c = .sasToken token ∧ d = .sasToken other) ∨
        ∃ cert other, c = .certificate cert ∧ d = .certificate other ∧
          cert.certificate.utf8ByteSize = other.certificate.utf8ByteSize := by
  constructor
  · intro h
    cases c with
    | sasToken token =>
        cases d with
        | sasToken other => exact .inl ⟨token, other, rfl, rfl⟩
        | certificate other => cases h
    | certificate cert =>
        cases d with
        | sasToken other => cases h
        | certificate other =>
            have hblank := (ClientCertificate.mk.inj (Credential.certificate.inj h)).1
            exact .inr ⟨cert, other, rfl, rfl, blank_inj.mp hblank⟩
  · rintro (⟨token, other, rfl, rfl⟩ | ⟨cert, other, rfl, rfl, h⟩)
    · rfl
    · rw [veil, veil, ClientCertificate.veil, ClientCertificate.veil, h]

/-- **Which requests look the same**: equal ones, and those that set credentials that do. -/
theorem Request.veil_eq_iff {r other : Request} :
    r.veil = other.veil ↔
      r = other ∨ ∃ c d, r = .setCredential c ∧ other = .setCredential d ∧ c.veil = d.veil := by
  constructor
  · intro h
    cases r with
    | setCredential c =>
        cases other with
        | setCredential d => exact .inr ⟨c, d, rfl, rfl, Request.setCredential.inj h⟩
        | setConnectionArgs _ | connect | reconnect | disconnect | publish _ _ | subscribe _
        | unsubscribe _ | enableFeature _ | disableFeature _ => cases h
    | setConnectionArgs _ | connect | reconnect | disconnect | publish _ _ | subscribe _
    | unsubscribe _ | enableFeature _ | disableFeature _ =>
        left
        cases other <;> cases h
        rfl
  · rintro (rfl | ⟨c, d, rfl, rfl, h⟩)
    · rfl
    · rw [veil, veil, h]

@[simp] lemma Request.name_veil (r : Request) : r.veil.name = r.name := by cases r <;> rfl

namespace Operation

variable (op : Operation κ)

@[simp] lemma name_veil : op.veil.name = op.name := op.request.name_veil

@[simp] lemma veil_fail (f : Failure) : (op.fail f).veil = op.veil.fail f := rfl

@[simp] lemma outcome_veil : op.veil.outcome = op.outcome := rfl

end Operation

/-! ## What is shown -/

lemma Credential.shown_veil (c : Credential) : c.veil.shown = c.shown := by
  cases c with
  | sasToken token => rfl
  | certificate cert =>
      rw [veil, shown, shown, ClientCertificate.shown, ClientCertificate.shown,
        ClientCertificate.veil, utf8ByteSize_blank]

/-- **An operation that is shown for debugging** shows no secret. -/
theorem Operation.shown_veil (op : Operation κ) : op.veil.shown = op.shown := by
  have hrequest : op.veil.request.shown = op.request.shown := by
    rw [Operation.veil]
    cases op.request with
    | setCredential credential =>
        rw [Request.veil, Request.shown, Request.shown, Credential.shown_veil]
        rfl
    | setConnectionArgs _ | connect | reconnect | disconnect | publish _ _ | subscribe _
    | unsubscribe _ | enableFeature _ | disableFeature _ => rfl
  rw [shown, shown, hrequest]
  rfl

lemma ByteArray.length_toList (bytes : ByteArray) : bytes.toList.length = bytes.size := by
  have hloop : ∀ i taken, (ByteArray.toList.loop bytes i taken).length
      = bytes.size - i + taken.length := by
    intro i taken
    induction i, taken using ByteArray.toList.loop.induct bytes with
    | case1 i taken hlt ih =>
        rw [ByteArray.toList.loop, if_pos hlt, ih, List.length_cons]
        omega
    | case2 i taken hge =>
        rw [ByteArray.toList.loop, if_neg hge, List.length_reverse]
        omega
  exact hloop 0 []

/-- A certificate as bytes shows its length. -/
lemma Transport.ClientAuth.shown_ofCertificate (c : ClientCertificate) :
    (ofCertificate c).shown
      = ClientCertificate.shownAs "ClientAuth" c.certificate.utf8ByteSize := by
  rw [shown, ofCertificate, Text.bytes, ByteArray.length_toList]
  rfl

/-- **A certificate as bytes** shows no secret either. -/
theorem Transport.ClientAuth.shown_veil (c : ClientCertificate) :
    (ofCertificate c.veil).shown = (ofCertificate c).shown := by
  rw [shown_ofCertificate, shown_ofCertificate, ClientCertificate.veil, utf8ByteSize_blank]

/-! ## The state -/

namespace Stage

variable (s : Stage κ) (op : Operation κ)

@[simp] lemma about_veil (text : String) : s.veil.about op.veil text = s.about op text := by
  rw [about, about, Operation.name_veil]
  rfl

@[simp] lemma veil_setSlot (slot : Slot) (o : Option (Operation κ)) :
    (s.setSlot slot o).veil = s.veil.setSlot slot (o.map Operation.veil) := by
  cases slot <;> rfl

@[simp] lemma slot_veil (slot : Slot) : s.veil.slot slot = (s.slot slot).map Operation.veil := by
  cases slot <;> rfl

@[simp] lemma awaiting?_veil (id : Nat) :
    s.veil.awaiting? id = (s.awaiting? id).map Operation.veil := by
  rw [awaiting?, awaiting?, veil]
  induction s.awaitingAck with
  | nil => rfl
  | cons p rest ih =>
      rw [List.map_cons, List.lookup_cons, List.lookup_cons]
      cases id == p.1
      · exact ih
      · rfl

@[simp] lemma veil_forget (id : Nat) : (s.forget id).veil = s.veil.forget id := by
  have hfilter : ((s.awaitingAck.filter (·.1 ≠ id)).map fun p => (p.1, p.2.veil))
      = (s.awaitingAck.map fun p => (p.1, p.2.veil)).filter (·.1 ≠ id) := by
    rw [List.filter_map]
    rfl
  rw [forget, forget, veil, veil, hfilter]

@[simp] lemma veil_await : (s.await op).veil = s.veil.await op.veil := by
  have hforget := congrArg Stage.awaitingAck (s.veil_forget op.id)
  rw [await, await, veil, veil, List.map_append]
  exact congrArg (fun left => ({ s.veil with awaitingAck := left ++ _ } : Stage κ)) hforget

@[simp] lemma veil_callFor (aim : Aim) : (s.callFor aim).veil = s.veil.callFor aim := by
  have htoken : s.token?.map (fun _ => "") = s.veil.token? := by
    rw [token?, token?, veil]
    rcases s.credential with _ | ⟨_ | _⟩ <;> rfl
  have hcertificate : s.certificate?.map ClientCertificate.veil = s.veil.certificate? := by
    rw [certificate?, certificate?, veil]
    rcases s.credential with _ | ⟨_ | _⟩ <;> rfl
  cases aim with
  | connect => rw [callFor, callFor, SessionCall.veil, htoken, hcertificate]
  | reconnect => rw [callFor, callFor, SessionCall.veil, htoken]
  | disconnect => rfl

@[simp] lemma active_veil : s.veil.active = s.active.map Operation.veil := by
  rw [active, active, List.map_append, ← Option.toList_map, ← Option.toList_map]
  rfl

@[simp] lemma pending_veil : s.veil.pending = s.pending.map Operation.veil := by
  rw [pending, pending, active_veil, List.map_append, List.map_map]
  simp [veil, Function.comp_def]

end Stage

/-! ## Stretches of work -/

namespace Turn

@[simp] lemma veil_after (traces : List (Trace κ)) (t : Turn κ) :
    (t.after traces).veil = t.veil.after (traces.map Trace.veil) := by
  rw [after, after, veil, veil, List.map_append]

@[simp] lemma veil_logging (line : LogLine) (t : Turn κ) :
    (t.logging line).veil = t.veil.logging line :=
  veil_after _ t

end Turn

namespace Stage

variable (s : Stage κ) (op : Operation κ)

@[simp] lemma veil_inside (t : Turn κ) : (s.inside t).veil = s.veil.inside t.veil := by
  rw [inside, inside]
  have hentered : s.veil.entered = s.entered := rfl
  rw [hentered]
  split <;> rfl

@[simp] lemma veil_complete : (s.complete op).veil = s.veil.complete op.veil := rfl

@[simp] lemma noSession_veil : noSession op.veil = noSession op := by
  rw [noSession, noSession, Operation.name_veil]

@[simp] lemma superseded_veil : superseded op.veil = superseded op := by
  rw [superseded, superseded, Operation.name_veil]

lemma ackName_veil (r : Request) : ackName r.veil = ackName r := by cases r <;> rfl

@[simp] lemma veil_refuse (f : Failure) : (s.refuse op f).veil = s.veil.refuse op.veil f := by
  rw [refuse, refuse, Turn.veil_logging, veil_complete, Operation.veil_fail, about_veil]

/-! ### An operation arrives -/

lemma veil_setConnectionArgs (args : ConnectionArgs) :
    (s.setConnectionArgs op args).veil = s.veil.setConnectionArgs op.veil args := by
  rw [setConnectionArgs, setConnectionArgs, Turn.veil_logging, veil_inside, about_veil]
  have hsession : s.veil.session = s.session := rfl
  rw [hsession]
  cases s.session <;> rfl

lemma veil_setCredential (credential : Credential) :
    (s.setCredential op credential).veil = s.veil.setCredential op.veil credential.veil := by
  have hword : credential.veil.word = credential.word := by cases credential <;> rfl
  rw [setCredential, setCredential, Turn.veil_logging, veil_inside, about_veil, hword]
  rfl

lemma veil_startConnection (aim : Aim) :
    (s.startConnection aim op).veil = s.veil.startConnection aim op.veil := by
  rw [startConnection, startConnection, veil_inside]
  have hsession : s.veil.session = s.session := rfl
  rw [hsession]
  cases s.session with
  | none =>
      simp only [veil_refuse, veil_setSlot, noSession_veil]
      rfl
  | some session =>
      simp only [Turn.veil, Next.veil, Ask.veil, veil_callFor]
      cases aim <;> rfl

lemma veil_supersede (aim : Aim) (left : List (Operation κ)) :
    (s.supersede aim op left).veil
      = s.veil.supersede aim op.veil (left.map Operation.veil) := by
  cases left with
  | nil => exact s.veil_startConnection op aim
  | cons old left =>
      simp only [List.map_cons, supersede, Turn.veil, Next.veil, Ask.veil, ChainCall.veil,
        Frame.veil, List.map_nil, Trace.veil, about_veil, superseded_veil, Operation.veil_fail,
        Operation.name_veil]

lemma veil_runConnection (aim : Aim) :
    (s.runConnection aim op).veil = s.veil.runConnection aim op.veil := by
  rw [runConnection, runConnection, Turn.veil_logging, veil_inside, veil_supersede, about_veil,
    active_veil]
  rfl

lemma veil_runRequest (c : SessionCall) (text : String) :
    (s.runRequest op c text).veil = s.veil.runRequest op.veil c.veil text := by
  rw [runRequest, runRequest, Turn.veil_logging, veil_inside, about_veil]
  have hsession : s.veil.session = s.session := rfl
  rw [hsession]
  cases s.session with
  | none => simp only [veil_refuse, noSession_veil]
  | some session =>
      simp only [Turn.veil, Next.veil, Ask.veil, Frame.veil, ← veil_await]
      rfl

/-- **The arrival of an operation** commutes with the veil. -/
theorem veil_run (o : Origin) : (s.run o op).veil = s.veil.run o op.veil := by
  rw [run, run]
  cases o.check .pipeline with
  | error text => rfl
  | ok u =>
      obtain ⟨id, request, error, callback⟩ := op
      cases request with
      | setConnectionArgs args => exact s.veil_setConnectionArgs _ args
      | setCredential credential => exact s.veil_setCredential _ credential
      | connect | reconnect | disconnect => exact s.veil_runConnection _ _
      | publish topic payload => exact s.veil_runRequest _ _ _
      | subscribe topic | unsubscribe topic => exact s.veil_runRequest _ _ _
      | enableFeature feature | disableFeature feature => rfl

/-! ### The session reports -/

lemma veil_connectionFailed (cause : Failure) :
    (s.connectionFailed cause).veil = s.veil.connectionFailed cause := by
  rw [connectionFailed, connectionFailed, Turn.veil_logging, veil_inside]
  have hslot : s.veil.activeConnect = s.activeConnect.map Operation.veil := rfl
  rw [hslot]
  cases s.activeConnect with
  | none => rfl
  | some op =>
      simp only [Option.map_some, Turn.veil_logging, veil_complete, Operation.veil_fail, about_veil]
      rfl

lemma veil_announced : s.announced.veil = s.veil.announced := by
  rw [announced, announced, veil_inside]
  have hslot : s.veil.activeConnect = s.activeConnect.map Operation.veil := rfl
  rw [hslot]
  cases s.activeConnect with
  | none => rfl
  | some op =>
      simp only [Option.map_some, Turn.veil_logging, veil_complete, about_veil]
      rfl

lemma veil_retired (cause : Option Failure) : (s.retired cause).veil = s.veil.retired cause := by
  rw [retired, retired, veil_inside]
  have hslot : s.veil.activeDisconnect = s.activeDisconnect.map Operation.veil := rfl
  rw [hslot]
  cases s.activeDisconnect with
  | none => cases cause <;> rfl
  | some op =>
      simp only [Option.map_some, Turn.veil_logging, veil_complete, about_veil]
      cases cause <;> rfl

lemma veil_acknowledged (id : Nat) (outcome : Outcome) :
    (s.acknowledged id outcome).veil = s.veil.acknowledged id outcome := by
  rw [acknowledged, acknowledged, veil_inside, awaiting?_veil]
  cases s.awaiting? id with
  | none => rfl
  | some op =>
      have hname : ackName op.veil.request = ackName op.request := ackName_veil op.request
      cases outcome <;>
        simp only [Option.map_some, Turn.veil_logging, veil_complete, Operation.veil_fail,
          about_veil, veil_forget, hname]

/-- **The report of a session** commutes with the veil. -/
theorem veil_report (r : Report) : (s.report r).veil = s.veil.report r := by
  cases r with
  | connectionFailed cause => exact s.veil_connectionFailed cause
  | acknowledged id outcome => exact s.veil_acknowledged id outcome
  | disconnected cause => cases cause <;> rfl
  | connected | message _ _ => rfl

/-! ### Everything is given up -/

lemma veil_abandonRest (session : Option SessionId) (left : List (Operation κ)) :
    (s.abandonRest session left).veil
      = s.veil.abandonRest session (left.map Operation.veil) := by
  cases left with
  | nil => cases session <;> rfl
  | cons op left => rfl

lemma veil_abandonLines : s.abandonLines.map Trace.veil = s.veil.abandonLines := by
  rw [abandonLines, abandonLines, pending_veil, List.isEmpty_map, List.length_map]
  have hname : s.veil.name = s.name := rfl
  rw [hname]
  split <;> rfl

/-- **Giving everything up** commutes with the veil. -/
theorem veil_abandon (o : Origin) : (s.abandon o).veil = s.veil.abandon o := by
  rw [abandon, abandon]
  cases o.check .pipeline with
  | error text => rfl
  | ok u =>
      simp only [veil_inside, Turn.veil_after, veil_abandonLines, veil_abandonRest, pending_veil]
      rfl

/-! ### The surroundings return -/

theorem veil_proceed (frame : Frame κ) :
    (s.proceed frame).map Turn.veil = s.veil.proceed frame.veil := by
  cases frame with
  | superseding left aim op => exact congrArg some (s.veil_supersede op aim left)
  | announced => exact congrArg some s.veil_announced
  | retired cause => exact congrArg some (s.veil_retired cause)
  | abandoning left session => exact congrArg some (s.veil_abandonRest session left)
  | last | creating _ _ | replacing _ | starting _ | requesting _ => rfl

theorem veil_created (result : Except Failure SessionId) (frame : Frame κ) :
    (s.created result frame).map Turn.veil = s.veil.created result frame.veil := by
  cases frame with
  | creating op args =>
      cases result with
      | error f =>
          simp only [created, Frame.veil, Option.map_some, Turn.veil_logging, veil_complete,
            Operation.veil_fail, about_veil]
      | ok session =>
          simp only [created, Frame.veil, Option.map_some, Turn.veil_logging, veil_inside]
          have hsession : s.veil.session = s.session := rfl
          rw [hsession]
          cases s.session <;> rfl
  | last | superseding _ _ _ | replacing _ | starting _ | requesting _ | announced | retired _
  | abandoning _ _ => rfl

theorem veil_answered (outcome : Outcome) (frame : Frame κ) :
    (s.answered outcome frame).map Turn.veil = s.veil.answered outcome frame.veil := by
  cases frame with
  | starting slot =>
      cases outcome with
      | ok u => rfl
      | error f =>
          simp only [Frame.veil, answered, slot_veil]
          cases s.slot slot with
          | none => rfl
          | some op =>
              simp only [Option.map_some, veil_refuse, veil_setSlot]
              rfl
  | requesting id =>
      cases outcome with
      | ok u => rfl
      | error f =>
          simp only [Frame.veil, answered, awaiting?_veil]
          cases s.awaiting? id with
          | none => rfl
          | some op =>
              simp only [Option.map_some, veil_refuse, veil_forget]
              rfl
  | last | superseding _ _ _ | creating _ _ | replacing _ | announced | retired _
  | abandoning _ _ => rfl

end Stage

/-! ## Moves -/

lemma Ask.operations_veil (a : Ask κ) :
    a.veil.operations = a.operations.map Operation.veil := by
  cases a with
  | chain c => cases c <;> rfl
  | create _ | call _ _ | release _ => rfl

lemma Frame.operations_veil (frame : Frame κ) :
    frame.veil.operations = frame.operations.map Operation.veil := by
  cases frame with
  | superseding left aim op =>
      rw [operations, List.map_append]
      rfl
  | abandoning left session => rfl
  | last | creating _ _ | replacing _ | starting _ | requesting _ | announced | retired _ => rfl

namespace Activity

variable (a : Activity κ)

lemma holdsCell_veil (frame : Frame κ) : frame.veil.holdsCell = frame.holdsCell := by
  cases frame <;> rfl

lemma session?_veil (frame : Frame κ) : frame.veil.session? = frame.session? := by
  cases frame <;> rfl

lemma asked?_veil : a.veil.asked? = a.asked?.map Ask.veil := by
  rw [asked?, asked?, veil, List.head?_map, Option.map_map, Option.map_map]
  rfl

/-- What comes of a move under the veil. -/
def veiled (r : Activity κ × List (Trace κ)) : Activity κ × List (Trace κ) :=
  (r.1.veil, r.2.map Trace.veil)

lemma veil_unwind (s : Stage κ) (message : String) (levels : List (Ask κ × Frame κ)) :
    veiled (unwind s message levels)
      = unwind s.veil message (levels.map fun l => (l.1.veil, l.2.veil)) := by
  have hheld : (levels.map fun l => (l.1.veil, l.2.veil)).any (·.2.holdsCell)
      = levels.any (·.2.holdsCell) := by
    rw [List.any_map]
    exact congrArg levels.any (funext fun l => holdsCell_veil l.2)
  have hgone : ∀ l : Ask κ × Frame κ, (l.2.session?.map Trace.gone).map Trace.veil
      = l.2.veil.session?.map (Trace.gone (κ := κ)) := by
    intro l
    rw [session?_veil]
    cases l.2.session? <;> rfl
  simp only [unwind, veiled, hheld, List.map_append, List.map_filterMap, List.filterMap_map,
    hgone]
  rfl

lemma veil_settle (levels : List (Ask κ × Frame κ)) (t : Turn κ) :
    veiled (settle levels t)
      = settle (levels.map fun l => (l.1.veil, l.2.veil)) t.veil := by
  obtain ⟨s, traces, next⟩ := t
  cases next with
  | done => rfl
  | ask asked frame =>
      simp only [settle, veiled, Turn.veil, Next.veil, List.map_append]
      rfl
  | panic message =>
      have hunwind := veil_unwind s message levels
      simp only [settle, veiled, Turn.veil, Next.veil, List.map_append, ← hunwind]

/-- **Every move commutes with the veil.** -/
theorem veil_step (m : Move κ) : (a.step m).map veiled = a.veil.step m.veil := by
  obtain ⟨s, levels⟩ := a
  cases m with
  | enter o op =>
      simp only [step, Move.veil, Option.map_some, veil_settle, Stage.veil_run]
      rfl
  | deliver r =>
      simp only [step, Move.veil, Option.map_some, veil_settle, Stage.veil_report]
      rfl
  | abandon o =>
      simp only [step, Move.veil, Option.map_some, veil_settle, Stage.veil_abandon]
      rfl
  | panic message => exact congrArg some (veil_unwind s message levels)
  | proceed =>
      cases levels with
      | nil => rfl
      | cons l below =>
          have hproceed := s.veil_proceed l.2
          simp only [step, Move.veil, veil, List.map_cons, ← hproceed, Option.map_map]
          exact congrArg (fun f => (s.proceed l.2).map f) (funext fun t => veil_settle below t)
  | created result =>
      cases levels with
      | nil => rfl
      | cons l below =>
          have hcreated := s.veil_created result l.2
          simp only [step, Move.veil, veil, List.map_cons, ← hcreated, Option.map_map]
          exact congrArg (fun f => (s.created result l.2).map f)
            (funext fun t => veil_settle below t)
  | answered outcome =>
      cases levels with
      | nil => rfl
      | cons l below =>
          have hanswered := s.veil_answered outcome l.2
          simp only [step, Move.veil, veil, List.map_cons, ← hanswered, Option.map_map]
          exact congrArg (fun f => (s.answered outcome l.2).map f)
            (funext fun t => veil_settle below t)

/-- **A run at any depth commutes with the veil**, whatever the surroundings do. -/
theorem veil_run (moves : List (Move κ)) :
    veiled (a.run moves) = a.veil.run (moves.map Move.veil) := by
  induction moves generalizing a with
  | nil => rfl
  | cons m rest ih =>
      have hstep := a.veil_step m
      cases hm : a.step m with
      | none =>
          rw [hm, Option.map_none] at hstep
          rw [run, hm, List.map_cons, run, ← hstep]
          exact ih a
      | some r =>
          obtain ⟨next, traces⟩ := r
          rw [hm, Option.map_some] at hstep
          rw [run, hm, List.map_cons, run, ← hstep]
          simp only [veiled, List.map_append] at ih ⊢
          rw [← ih next]

lemma operations_veil : a.veil.operations = a.operations.map Operation.veil := by
  have hlevel : ∀ l : Ask κ × Frame κ, l.1.veil.operations ++ l.2.veil.operations
      = (l.1.operations ++ l.2.operations).map Operation.veil := by
    intro l
    rw [List.map_append, Ask.operations_veil, Frame.operations_veil]
  rw [operations, operations, List.map_append, List.map_flatMap, ← Stage.pending_veil, veil,
    List.flatMap_map]
  simp only [hlevel]

end Activity

/-! ## The root -/

/-- **What the root causes** is the same under the veil. -/
theorem Root.handle_veil (r : Root) (c : ChainCall κ) : r.handle c.veil = r.handle c := by
  have hcomplete : ∀ op : Operation κ, complete op.veil = complete op := by
    intro op
    rw [complete, complete, completedLine, completedLine, Operation.name_veil,
      Operation.outcome_veil]
    rfl
  cases c with
  | complete op => rw [ChainCall.veil, handle, handle, hcomplete]
  | pass op =>
      have hnot : notHandled op.veil = notHandled op := by
        rw [notHandled, notHandled, Operation.name_veil]
      rw [ChainCall.veil, handle, handle, pass, pass, hnot, ← Operation.veil_fail, hcomplete,
        Operation.name_veil]
      rfl
  | event _ | connected | disconnected => rfl

end DeviceLink
