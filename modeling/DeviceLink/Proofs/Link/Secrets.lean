import DeviceLink.Proofs.Link.Credentials
import DeviceLink.Proofs.Link.Places
import DeviceLink.Proofs.Stage.Secrets

/-!
# What a link shows of secrets

Two links are brought the same operations, up to their secrets, and the worlds of sessions say the
same in both, whatever they make of the secrets that they are given.  Then nobody who only sees what
the links write and do can tell them apart.

* `Reply`, `Link.reply`, `Link.heard` — what a world of sessions says, in one step and in a run.
* `Link.veil` — what is left of a link when secrets, and the world, are hidden.
* **`Sound.veil_undergoes`** — everything that happens commutes with the veil, over a world that
  says what the world has said.
* `Sighting` — what an observer sees of a run, besides the link.
* **`veil_undergo`** — two runs in step look the same under the veil.
* **`secrets_unseen`** — nobody can tell two such runs apart, `Indistinct`.
-/

namespace DeviceLink

open Dispatch Transport

/-! ## Mailboxes under a veil -/

namespace Dispatch

variable {J K : Type} (f : J → K)

def Command.map : Command J → Command K
  | run job => run (f job)
  | stop => stop

namespace Mailbox

def map (m : Mailbox J) : Mailbox K :=
  { queue := m.queue.map (Command.map f), phase := m.phase, joinable := m.joinable }

def Turn.map : Turn J → Turn K
  | .job next rest => .job (f next) (rest.map f)
  | .stop rest => .stop (rest.map f)
  | .exit dropped rest => .exit (dropped.map f) (rest.map f)
  | .none => .none

lemma jobs_map (commands : List (Command J)) :
    jobs (commands.map (Command.map f)) = (jobs commands).map f := by
  rw [jobs, jobs, List.filterMap_map, List.map_filterMap]
  exact congrArg (fun g => commands.filterMap g) (funext fun c => by cases c <;> rfl)

lemma turn_map (m : Mailbox J) : (m.map f).turn = m.turn.map f := by
  obtain ⟨queue, phase, joinable⟩ := m
  cases phase with
  | running =>
      rcases queue with _ | ⟨_ | job, rest⟩ <;> rfl
  | stopped =>
      rw [turn, turn, Turn.map, ← jobs_map]
      rfl
  | exited => rfl

lemma map_put (m : Mailbox J) (js : List J) : (m.put js).map f = (m.map f).put (js.map f) := by
  simp [put, map, Command.map, Function.comp_def]

lemma map_offer (m : Mailbox J) (js : List J) :
    (m.offer js).map f = (m.map f).offer (js.map f) := by
  have hphase : (m.map f).phase = m.phase := rfl
  rw [offer, offer, hphase, ← map_put]
  cases m.phase <;> rfl

lemma map_sendStop (m : Mailbox J) : m.sendStop.map f = (m.map f).sendStop := by
  obtain ⟨queue, phase, joinable⟩ := m
  cases phase <;> simp [sendStop, map, Command.map]

end Mailbox

end Dispatch

variable {κ ω ω' ε : Type}

/-! ## What sessions say -/

/-- What a world of sessions says in one step. -/
inductive Reply where
  | silence
  /-- It has made a session, or says why not. -/
  | made (result : Except Failure SessionId)
  /-- It reports, and may end a call. -/
  | said (answer : Option Answer) (reports : List Report)
  deriving DecidableEq

namespace Reply

def result : Reply → Except Failure SessionId
  | made result => result
  | silence | said _ _ => .ok 0

def answer? : Reply → Option Answer
  | said answer _ => answer
  | silence | made _ => none

def reports : Reply → List Report
  | said _ reports => reports
  | silence | made _ => []

def reports? : Reply → Option (List Report)
  | said _ reports => some reports
  | silence | made _ => none

/-- Sessions that say just this, whatever they are told. -/
def model (r : Reply) : SessionModel Unit where
  create := fun w _ => (r.result, w)
  step := fun w _ _ => (r.answer?, r.reports, w)
  release := fun w _ => (r.reports, w)

def world (r : Reply) : World Unit ε where
  model := r.model
  stir := fun w _ => r.reports?.map fun reports => (reports, w)

end Reply

/-- What sessions say to what is handed to them. -/
def SessionModel.reply (M : SessionModel ω) (w : ω) : Ask κ → Reply
  | .chain _ => .silence
  | .create args => .made (M.create w args).1
  | .call session c => .said (M.step w session c).1 (M.step w session c).2.1
  | .release session => .said none (M.release w session).1

namespace Link

/-- What the pipeline's worker is about to bring to root or sessions. -/
def asking (l : Link κ ω) : Episode κ ε → Option (Ask κ)
  | .incident (.happening .work) => l.activity.asked?
  | .bring _ _ | .incident (.happening (.submit _ _ _)) | .incident (.happening (.stir _))
  | .incident (.happening .beginUser) | .incident (.happening (.endUser _))
  | .incident (.happening (.handle _)) | .incident (.shutdown _ _) => none

/-- **What the world of sessions says** while one thing happens. -/
def reply (W : World ω ε) (l : Link κ ω) : Episode κ ε → Reply
  | .incident (.happening (.stir e)) =>
    (W.stir l.world e).elim .silence fun r => .said none r.1
  | .incident (.happening .work) => l.activity.asked?.elim .silence (W.model.reply l.world)
  | .bring _ _ | .incident (.happening (.submit _ _ _)) | .incident (.happening .beginUser)
  | .incident (.happening (.endUser _)) | .incident (.happening (.handle _))
  | .incident (.shutdown _ _) => .silence

/-- What it says in a run. -/
def heard (W : World ω ε) : Link κ ω → List (Episode κ ε) → List Reply
  | _, [] => []
  | l, e :: rest => l.reply W e :: heard W ((l.undergoes W e).getD l) rest

end Link

/-! ## The veil -/

def Job.veil : Job κ → Job κ
  | run op => run op.veil
  | report r => report r
  | abandon => abandon

def Happening.veil : Happening κ ε → Happening κ ε
  | submit caller request callback => submit caller request.veil callback
  | stir e => stir e
  | work => work
  | beginUser => beginUser
  | endUser panic => endUser panic
  | handle kept => handle kept

/-- The same is done, with requests that have no secrets. -/
def Episode.veil : Episode κ ε → Episode κ ε
  | bring request callback => bring request.veil callback
  | incident (.happening h) => incident (.happening h.veil)
  | incident (.shutdown worker s) => incident (.shutdown worker s)

namespace Link

/-- **What is left of a link** when secrets are hidden, and the world of sessions with them. -/
def veil (l : Link κ ω) : Link κ Unit :=
  { activity := l.activity.veil
    root := l.root
    sink := l.sink
    inbox := l.inbox.map Job.veil
    outbox := l.outbox
    handleKept := l.handleKept
    user := l.user
    world := ()
    nextId := l.nextId
    log := l.log }

variable {W : World ω ε} {M : SessionModel ω} {N : SessionModel Unit} {l l' : Link κ ω}

@[simp] lemma veil_send (l : Link κ ω) (job : Job κ) :
    (l.send job).veil = l.veil.send job.veil := by
  rw [send_eq_offer, send_eq_offer]
  simp only [veil, Mailbox.map_offer, List.map_cons, List.map_nil]

@[simp] lemma veil_happen (l : Link κ ω) (reports : List Report) (world : ω) :
    (l.happen reports world).veil = l.veil.happen reports () := by
  have hreports : (reports.map (Job.report : Report → Job κ)).map Job.veil
      = reports.map Job.report := by
    rw [List.map_map]
    rfl
  rw [happen_eq_offer, happen_eq_offer]
  simp only [veil, Mailbox.map_offer, hreports]

lemma veil_foldl_effect (effects : List (RootEffect κ)) (l : Link κ ω) :
    (effects.foldl effect l).veil = effects.foldl effect l.veil := by
  refine (List.foldl_hom veil fun l e => ?_).symm
  cases e <;> rfl

lemma veil_notice_panic (l : Link κ ω) (message : String) :
    (l.notice M (.panic message)).veil = l.veil.notice N (.panic message) := by
  have hkept : l.veil.handleKept = l.handleKept := rfl
  rw [notice, notice, hkept]
  split <;> rfl

/-- What can be seen of the stage is the same, as long as no session goes in a panic. -/
lemma veil_foldl_notice {traces : List (Trace κ)} (h : ∀ session, .gone session ∉ traces)
    (l : Link κ ω) :
    (traces.foldl (notice M) l).veil = (traces.map Trace.veil).foldl (notice N) l.veil := by
  induction traces generalizing l with
  | nil => rfl
  | cons trace rest ih =>
      have hrest : ∀ session, .gone session ∉ rest :=
        fun session hs => h session (List.mem_cons_of_mem _ hs)
      cases trace with
      | gone session => exact (h session List.mem_cons_self).elim
      | log line => exact ih hrest (l.notice M (.log line))
      | unhandled f => exact ih hrest (l.notice M (.unhandled f))
      | panic message =>
          rw [List.foldl_cons, ih hrest, List.map_cons, List.foldl_cons, veil_notice_panic]
          rfl
      | ask a => exact ih hrest l

lemma veil_move {m : Move κ} (h : l.activity.Single) (hm : l.activity.Driven m)
    (fresh : ∀ op ∈ m.brings, l.activity.stage.awaiting? op.id = none) :
    (l.move M m).veil = l.veil.move N m.veil := by
  have hstep : (l.activity.step m).map Activity.veiled = l.veil.activity.step m.veil :=
    l.activity.veil_step m
  rw [move, move, ← hstep]
  cases hs : l.activity.step m with
  | none => rfl
  | some r =>
      obtain ⟨a, traces⟩ := r
      exact veil_foldl_notice (h.not_gone hm fresh hs) { l with activity := a }

/-- **What root and sessions answer** is the same under the veil, over sessions that say the
same. -/
lemma veil_answer (l : Link κ ω) (ask : Ask κ) :
    ((l.answer M ask).1.veil, (l.answer M ask).2.map Move.veil)
      = l.veil.answer (M.reply l.world ask).model ask.veil := by
  cases ask with
  | chain c =>
      have hhandle : l.veil.root.handle c.veil = l.root.handle c := l.root.handle_veil c
      simp only [answer, Ask.veil, hhandle, veil_foldl_effect]
      rfl
  | create args => rfl
  | call session c =>
      have hended : ∀ answer : Option Answer,
          (answer.map ended).map Move.veil = answer.map (ended : Answer → Move κ) := by
        intro answer
        rcases answer with _ | _ | _ <;> rfl
      simp only [answer, Ask.veil, veil_happen, hended]
      rfl
  | release session =>
      simp only [answer, release, Ask.veil, veil_happen]
      rfl

/-- The answer leaves the stage alone, and has it move as it may. -/
lemma driven_of_answer {ask : Ask κ} (hask : l.activity.asked? = some ask) :
    (l.answer M ask).1.activity = l.activity ∧
      ∀ m, (l.answer M ask).2 = some m → l.activity.Driven m ∧ m.brings = [] := by
  cases ask with
  | chain c =>
      obtain ⟨log, sink, heff⟩ :=
        exists_foldl_effect (l.root.handle c).2 { l with root := (l.root.handle c).1 }
      refine ⟨by simp only [answer, heff], ?_⟩
      rintro m ⟨⟩
      exact ⟨.inl trivial, rfl⟩
  | create args =>
      refine ⟨rfl, ?_⟩
      rintro m ⟨⟩
      exact ⟨.inl trivial, rfl⟩
  | call session c =>
      refine ⟨by simp only [answer, happen_eq_offer], fun m hm => ?_⟩
      obtain ⟨answer, -, rfl⟩ := Option.map_eq_some_iff.mp hm
      refine ⟨.inl ?_, brings_ended answer⟩
      cases answer with
      | returned outcome => trivial
      | panicked message => exact ⟨session, c, hask⟩
  | release session =>
      refine ⟨by simp only [answer, release, happen_eq_offer], ?_⟩
      rintro m ⟨⟩
      exact ⟨.inl trivial, rfl⟩

lemma Sound.veil_work (h : l.Sound) :
    (l.pipelineStep M).map veil
      = l.veil.pipelineStep (l.activity.asked?.elim .silence (M.reply l.world)).model := by
  have hasked : l.veil.activity.asked? = l.activity.asked?.map Ask.veil := l.activity.asked?_veil
  rw [pipelineStep, pipelineStep, hasked]
  cases hask : l.activity.asked? with
  | some ask =>
      have hanswer := veil_answer (M := M) l ask
      obtain ⟨hactivity, hdriven⟩ := driven_of_answer (M := M) hask
      simp only [Option.map_some, Option.elim_some, ← hanswer]
      rcases hk : l.answer M ask with ⟨k, _ | m⟩
      · rfl
      · rw [hk] at hactivity hdriven
        obtain ⟨hm, hbrings⟩ := hdriven m rfl
        have hmove := veil_move (l := k) (M := M) (N := (M.reply l.world ask).model) (m := m)
          (by rw [hactivity]; exact h.single) (by rw [hactivity]; exact hm)
          (by rw [hbrings]; exact List.forall_mem_nil _)
        exact congrArg some hmove
  | none =>
      have hturn : l.veil.inbox.turn = l.inbox.turn.map Job.veil := Mailbox.turn_map _ _
      have hlevels : l.activity.levels = [] := by
        rw [Activity.asked?, Option.map_eq_none_iff, List.head?_eq_none_iff] at hask
        exact hask
      simp only [Option.map_none, hturn]
      rcases l.inbox.turn_cases with
        hnone | ⟨job, rest, hphase, hqueue, hjob⟩ | ⟨left, hstop | ⟨dropped, hexit⟩⟩
      · rw [hnone]
        rfl
      · have hstart : (start job).veil = start job.veil := by cases job <;> rfl
        have hmove := veil_move (l := { l with inbox := { l.inbox with queue := rest } }) (M := M)
          (N := Reply.silence.model) h.single (driven_start hlevels job) (h.fresh_start hqueue)
        rw [hstart] at hmove
        rw [hjob]
        exact congrArg some hmove
      · rw [hstop]
        rfl
      · rw [hexit]
        rfl

lemma veil_order (l : Link κ ω) (c : Context) : (l.order c).veil = l.veil.order c := by
  cases c with
  | callback => rfl
  | pipeline =>
      have hinbox : l.inbox.sendStop.claim.map Job.veil
          = (l.inbox.map Job.veil).sendStop.claim := by
        rw [← Mailbox.map_sendStop]
        rfl
      rw [order, order, veil, hinbox]
      rfl

lemma veil_shutdownStep (l : Link κ ω) (worker : Option Context) (s : Shutdown) :
    ((l.shutdownStep worker s).map Prod.fst).map veil
      = (l.veil.shutdownStep worker s).map Prod.fst := by
  have hjoinable : ∀ c, l.veil.joinable c = l.joinable c := by rintro (_ | _) <;> rfl
  have hphase : ∀ c, l.veil.phase c = l.phase c := by rintro (_ | _) <;> rfl
  cases s with
  | abandon => exact congrArg some (l.veil_send .abandon)
  | stop todo =>
      cases todo with
      | nil => rfl
      | cons c todo =>
          simp only [shutdownStep, hjoinable, ← veil_order]
          split
          · rfl
          · split <;> rfl
  | join c todo =>
      simp only [shutdownStep, hphase]
      split <;> rfl

lemma veil_beginUser (l : Link κ ω) : l.beginUser.map veil = l.veil.beginUser := by
  have huser : l.veil.user = l.user := rfl
  have houtbox : l.veil.outbox = l.outbox := rfl
  rw [beginUser, beginUser, huser, houtbox]
  cases l.user with
  | some c => rfl
  | none => cases l.outbox.turn <;> rfl

lemma veil_endUser (l : Link κ ω) (panic : Option String) :
    (l.endUser panic).veil = l.veil.endUser panic := by
  have huser : l.veil.user = l.user := rfl
  simp only [endUser, huser]
  rcases l.user with _ | c <;> rcases panic with _ | message <;> rfl

lemma Sound.veil_happens (h : l.Sound) (happening : Happening κ ε) :
    (l.happens W happening).map veil
      = l.veil.happens (l.reply W (.incident (.happening happening))).world happening.veil := by
  cases happening with
  | submit caller request callback =>
      have hname : request.veil.name = request.name := request.name_veil
      simp only [Link.happens, Happening.veil, Link.submit, Option.map_some, veil_send,
        Operation.name, hname]
      rfl
  | stir e =>
      simp only [Link.happens, Happening.veil, reply]
      cases W.stir l.world e with
      | none => rfl
      | some r => exact congrArg some (l.veil_happen r.1 r.2)
  | work => exact h.veil_work
  | beginUser => exact l.veil_beginUser
  | endUser panic =>
      have huser : l.veil.user = l.user := rfl
      simp only [Link.happens, Happening.veil, huser, ← veil_endUser, Option.map_map]
      rfl
  | handle kept => rfl

/-- **Everything that happens commutes with the veil**, over a world that says what the world has
said. -/
theorem Sound.veil_undergoes (h : l.Sound) (e : Episode κ ε) :
    (l.undergoes W e).map veil = l.veil.undergoes (l.reply W e).world e.veil := by
  cases e with
  | bring request callback => exact congrArg some (veil_send _ _)
  | incident i =>
      cases i with
      | shutdown worker s => exact l.veil_shutdownStep worker s
      | happening happening => exact h.veil_happens happening

end Link

/-! ## What is seen -/

/-- What an observer sees of a run, besides the link. -/
structure Sighting (κ : Type) where
  /-- Every operation, as it was brought. -/
  made : List (Operation κ) := []
  /-- Everything that the stage has handed to root and sessions, once for each step of theirs. -/
  asks : List (Ask κ) := []
  /-- Everything that the root has caused. -/
  effects : List (RootEffect κ) := []
  /-- The connectivity that is published, after each thing that happened. -/
  states : List ConnectionState := []

/-- The operation that is brought, under the next number. -/
def Episode.operation? (e : Episode κ ε) (id : Nat) : Option (Operation κ) :=
  match e with
  | .bring request callback => some { id, request, callback }
  | .incident (.happening (.submit _ request callback)) =>
    some { id, request, callback := some callback }
  | .incident (.happening (.stir _)) | .incident (.happening .work)
  | .incident (.happening .beginUser) | .incident (.happening (.endUser _))
  | .incident (.happening (.handle _)) | .incident (.shutdown _ _) => none

/-- What the root causes when something is handed over. -/
def Root.effects (r : Root) : Ask κ → List (RootEffect κ)
  | .chain c => (r.handle c).2
  | .create _ | .call _ _ | .release _ => []

lemma Episode.operation?_veil (e : Episode κ ε) (id : Nat) :
    e.veil.operation? id = (e.operation? id).map Operation.veil := by
  cases e with
  | bring request callback => rfl
  | incident i =>
      cases i with
      | happening happening => cases happening <;> rfl
      | shutdown worker s => rfl

lemma Link.asking_veil (l : Link κ ω) (e : Episode κ ε) :
    l.veil.asking e.veil = (l.asking e).map Ask.veil := by
  cases e with
  | bring request callback => rfl
  | incident i =>
      cases i with
      | shutdown worker s => rfl
      | happening happening =>
          cases happening with
          | work => exact l.activity.asked?_veil
          | submit _ _ _ | stir _ | beginUser | endUser _ | handle _ => rfl

lemma Root.effects_veil (r : Root) (a : Ask κ) : r.effects a.veil = r.effects a := by
  cases a with
  | chain c => exact congrArg Prod.snd (r.handle_veil c)
  | create _ | call _ _ | release _ => rfl

/-- The certificate that a session is given to present. -/
def Ask.presented? : Ask κ → Option ClientAuth
  | call _ c => c.presents?.join
  | chain _ | create _ | release _ => none

lemma Ask.shown_presented?_veil (a : Ask κ) :
    a.veil.presented?.map ClientAuth.shown = a.presented?.map ClientAuth.shown := by
  cases a with
  | call session c =>
      cases c with
      | connect password certificate =>
          cases certificate with
          | none => rfl
          | some cert => exact congrArg some (ClientAuth.shown_veil cert)
      | reconnect _ | disconnect | publish _ _ _ | subscribe _ _ | unsubscribe _ _ => rfl
  | chain c => cases c <;> rfl
  | create _ | release _ => rfl

namespace Sighting

/-- What the observer adds. -/
def note (e : Episode κ ε) (before after : Link κ ω) (g : Sighting κ) : Sighting κ :=
  { made := g.made ++ (e.operation? before.nextId).toList
    asks := g.asks ++ (before.asking e).toList
    effects := g.effects ++ (before.asking e).toList.flatMap before.root.effects
    states := g.states ++ [after.root.state] }

def veil (g : Sighting κ) : Sighting κ :=
  { g with made := g.made.map Operation.veil, asks := g.asks.map Ask.veil }

/-- The operations that were handed over, each at its end or on its way past the stage. -/
def handed (g : Sighting κ) : List (Operation κ) := g.asks.flatMap Ask.operations

def outcomes (g : Sighting κ) : List (Nat × String × Outcome) :=
  g.handed.map fun op => (op.id, op.name, op.outcome)

/-- The credentials that were brought. -/
def credentials (g : Sighting κ) : List Credential := g.made.filterMap (·.request.credential?)

/-- The certificates that sessions were given to present. -/
def presented (g : Sighting κ) : List ClientAuth := g.asks.filterMap Ask.presented?

lemma handed_veil (g : Sighting κ) : g.veil.handed = g.handed.map Operation.veil := by
  rw [handed, handed, List.map_flatMap, veil, List.flatMap_map]
  simp only [Ask.operations_veil]

lemma outcomes_veil (g : Sighting κ) : g.veil.outcomes = g.outcomes := by
  have hid : ∀ op : Operation κ, op.veil.id = op.id := fun _ => rfl
  rw [outcomes, outcomes, handed_veil, List.map_map]
  simp only [Function.comp_def, hid, Operation.name_veil, Operation.outcome_veil]

lemma credentials_veil (g : Sighting κ) :
    g.veil.credentials = g.credentials.map Credential.veil := by
  have hrequest : ∀ r : Request, r.veil.credential? = r.credential?.map Credential.veil := by
    intro r
    cases r <;> rfl
  rw [credentials, credentials, List.map_filterMap, veil, List.filterMap_map]
  simp only [Function.comp_def, Operation.veil, hrequest]

lemma shown_presented_veil (g : Sighting κ) :
    g.veil.presented.map ClientAuth.shown = g.presented.map ClientAuth.shown := by
  rw [presented, presented, List.map_filterMap, List.map_filterMap, veil, List.filterMap_map]
  simp only [Function.comp_def, Ask.shown_presented?_veil]

/-- What is seen of a step is the same under the veil. -/
lemma veil_note (e : Episode κ ε) (before after : Link κ ω) (g : Sighting κ) :
    (note e before after g).veil = note e.veil before.veil after.veil g.veil := by
  have hnextId : before.veil.nextId = before.nextId := rfl
  have hroot : ∀ k : Link κ ω, k.veil.root = k.root := fun _ => rfl
  simp only [note, veil, hnextId, hroot, Episode.operation?_veil, Link.asking_veil,
    List.map_append, Option.toList_map, List.flatMap_map, Root.effects_veil]

end Sighting

namespace Link

variable {W : World ω ε} {W' : World ω' ε} {l : Link κ ω} {l' : Link κ ω'} {g g' : Sighting κ}

/-- **Two runs in step.**  What looks the same under the veil still does after the same has
happened, as long as the worlds say the same. -/
theorem veil_undergo (hsound : l.Sound) (hsound' : l'.Sound) (hlink : l.veil = l'.veil)
    (hseen : g.veil = g'.veil) {episodes others : List (Episode κ ε)}
    (hsame : episodes.map Episode.veil = others.map Episode.veil)
    (hheard : l.heard W episodes = l'.heard W' others) :
    (undergo W Sighting.note (l, g) episodes).1.veil
        = (undergo W' Sighting.note (l', g') others).1.veil ∧
      (undergo W Sighting.note (l, g) episodes).2.veil
        = (undergo W' Sighting.note (l', g') others).2.veil := by
  induction episodes generalizing others l l' g g' with
  | nil =>
      cases others with
      | nil => exact ⟨hlink, hseen⟩
      | cons other more => cases hsame
  | cons e rest ih =>
      cases others with
      | nil => cases hsame
      | cons other more =>
          obtain ⟨he, hrest⟩ := List.cons.inj hsame
          obtain ⟨hreply, hlater⟩ := List.cons.inj hheard
          have hnext : (l.undergoes W e).map veil = (l'.undergoes W' other).map veil := by
            rw [hsound.veil_undergoes, hsound'.veil_undergoes, hlink, hreply, he]
          rw [undergo, undergo]
          cases hn : l.undergoes W e with
          | none =>
              rw [hn, Option.map_none, eq_comm, Option.map_eq_none_iff] at hnext
              rw [hn, hnext] at hlater
              rw [runWith_cons_of_none hn, runWith_cons_of_none hnext]
              exact ih hsound hsound' hlink hseen hrest hlater
          | some next =>
              rw [hn, Option.map_some, eq_comm, Option.map_eq_some_iff] at hnext
              obtain ⟨next', hn', hveil⟩ := hnext
              rw [hn, hn'] at hlater
              rw [runWith_cons_of_some hn, runWith_cons_of_some hn']
              refine ih (hsound.undergoes hn) (hsound'.undergoes hn') hveil.symm ?_ hrest hlater
              rw [Sighting.veil_note, Sighting.veil_note, he, hlink, hveil, hseen]

/-! ## Two runs that nobody can tell apart -/

/-- **Nobody can tell two runs apart** who sees neither the secrets that operations carry nor the
passwords and certificates that sessions are given. -/
structure Indistinct (l : Link κ ω) (g : Sighting κ) (l' : Link κ ω') (g' : Sighting κ) :
    Prop where
  log : l.log = l'.log
  sink : l.sink = l'.sink
  /-- Connectivity is the same, and was at any time. -/
  root : l.root = l'.root
  states : g.states = g'.states
  /-- The user's code is called the same, and the same failures are left to nobody. -/
  effects : g.effects = g'.effects
  user : l.user = l'.user
  outbox : l.outbox = l'.outbox
  /-- The same is handed to the chain and to sessions, but for what the veil hides. -/
  asks : g.asks.map Ask.veil = g'.asks.map Ask.veil
  outcomes : g.outcomes = g'.outcomes
  /-- The same is shown of every operation: as it was brought, as it was handed over, and while it
  is under way. -/
  operations : (g.made ++ g.handed ++ l.operations).map Operation.shown
    = (g'.made ++ g'.handed ++ l'.operations).map Operation.shown
  /-- The same is shown of every credential that was brought, and of the one that is kept. -/
  credentials : (g.credentials ++ l.activity.stage.credential.toList).map Credential.shown
    = (g'.credentials ++ l'.activity.stage.credential.toList).map Credential.shown
  /-- The same is shown of every certificate that a session was given to present. -/
  presented : g.presented.map ClientAuth.shown = g'.presented.map ClientAuth.shown

lemma operations_veil (l : Link κ ω) : l.veil.operations = l.operations.map Operation.veil := by
  have hjob : ∀ job : Job κ, job.veil.operation? = job.operation?.map Operation.veil := by
    intro job
    cases job <;> rfl
  have hqueued : l.veil.queued = l.queued.map Operation.veil := by
    rw [queued, queued, List.map_filterMap]
    simp only [veil, Mailbox.map, Mailbox.jobs_map, List.filterMap_map, Function.comp_def, hjob]
  rw [operations, operations, List.map_append, hqueued]
  exact congrArg (_ ++ ·) l.activity.operations_veil

/-- **What looks the same under the veil** cannot be told apart. -/
theorem indistinct_of_veil (hlink : l.veil = l'.veil) (hseen : g.veil = g'.veil) :
    Indistinct l g l' g' := by
  have hoperations : ∀ ops : List (Operation κ),
      (ops.map Operation.veil).map Operation.shown = ops.map Operation.shown := by
    intro ops
    rw [List.map_map]
    simp only [Function.comp_def, Operation.shown_veil]
  have hcredentials : ∀ cs : List Credential,
      (cs.map Credential.veil).map Credential.shown = cs.map Credential.shown := by
    intro cs
    rw [List.map_map]
    simp only [Function.comp_def, Credential.shown_veil]
  have hmade : g.made.map Operation.veil = g'.made.map Operation.veil :=
    congrArg Sighting.made hseen
  have hstates : g.veil.states = g'.veil.states := congrArg Sighting.states hseen
  have heffects : g.veil.effects = g'.veil.effects := congrArg Sighting.effects hseen
  have hkept : l.activity.stage.credential.map Credential.veil
      = l'.activity.stage.credential.map Credential.veil :=
    congrArg (·.activity.stage.credential) hlink
  refine ⟨congrArg Link.log hlink, congrArg Link.sink hlink, congrArg Link.root hlink, hstates,
    heffects, congrArg Link.user hlink, congrArg Link.outbox hlink, congrArg Sighting.asks hseen,
    ?_, ?_, ?_, ?_⟩
  · rw [← g.outcomes_veil, hseen, g'.outcomes_veil]
  · have hveil : (g.made ++ g.handed ++ l.operations).map Operation.veil
        = (g'.made ++ g'.handed ++ l'.operations).map Operation.veil := by
      simp only [List.map_append, hmade, ← Sighting.handed_veil, ← operations_veil, hseen, hlink]
    rw [← hoperations, hveil, hoperations]
  · have hveil : (g.credentials ++ l.activity.stage.credential.toList).map Credential.veil
        = (g'.credentials ++ l'.activity.stage.credential.toList).map Credential.veil := by
      simp only [List.map_append, ← Sighting.credentials_veil, hseen, ← Option.toList_map, hkept]
    rw [← hcredentials, hveil, hcredentials]
  · rw [← g.shown_presented_veil, hseen, g'.shown_presented_veil]

/-- **Secrets are not seen.**  Two links that are built alike are brought the same operations, up to
their secrets, in the same order of everything that happens, and in both runs the worlds of sessions
say the same.  Then nobody can tell the runs apart. -/
theorem secrets_unseen {c : PipelineConfig} {listens : Bool} {world : ω} {world' : ω'}
    (hbuild : Link.build c listens (some world) = .ok l)
    (hbuild' : Link.build c listens (some world') = .ok l') {episodes others : List (Episode κ ε)}
    (hsame : episodes.map Episode.veil = others.map Episode.veil)
    (hheard : l.heard W episodes = l'.heard W' others) :
    Indistinct (undergo W Sighting.note (l, {}) episodes).1
      (undergo W Sighting.note (l, {}) episodes).2
      (undergo W' Sighting.note (l', {}) others).1
      (undergo W' Sighting.note (l', {}) others).2 := by
  have hlink : l.veil = l'.veil := by
    cases hbuild
    cases hbuild'
    rfl
  obtain ⟨hlinks, hseen⟩ := veil_undergo (steady_build hbuild).sound (steady_build hbuild').sound
    hlink (g := {}) rfl hsame hheard
  exact indistinct_of_veil hlinks hseen

/-- A session connects with a token, and then with a certificate; in the end a message is
published. -/
def twoConnects (token : String) (cert : ClientCertificate) : List (Episode Nat (List Report)) :=
  [.bring (.setConnectionArgs ⟨"hub", "device", "id", none⟩) none,
      .bring (.setCredential (.sasToken token)) (some 10), .bring .connect (some 20),
      .bring (.setCredential (.certificate cert)) none, .bring .connect none]
    ++ List.replicate 16 (.incident (.happening .work))
    ++ [.incident (.happening (.stir [.connected, .disconnected none])),
      .bring (.publish "topic" []) (some 30)]
    ++ List.replicate 16 (.incident (.happening .work))

/-- Sessions are given other secrets, and nobody else sees a difference. -/
theorem twoConnects_unseen :
    ∃ l : Link Nat Unit, Link.build {} false (some ()) = .ok l ∧
      let r := undergo obliging Sighting.note (l, {}) (twoConnects "token" ⟨"first", "key"⟩)
      let r' := undergo obliging Sighting.note (l, {}) (twoConnects "secret" ⟨"other", "word"⟩)
      r.2.asks ≠ r'.2.asks ∧ Indistinct r.1 r.2 r'.1 r'.2 := by
  obtain ⟨l, hl⟩ : ∃ l : Link Nat Unit, Link.build {} false (some ()) = .ok l := ⟨_, rfl⟩
  have htoken : (Credential.sasToken "token").veil = (Credential.sasToken "secret").veil :=
    Credential.veil_eq_iff.mpr (.inl ⟨_, _, rfl, rfl⟩)
  have hcert : (Credential.certificate ⟨"first", "key"⟩).veil
      = (Credential.certificate ⟨"other", "word"⟩).veil :=
    Credential.veil_eq_iff.mpr (.inr ⟨_, _, rfl, rfl, by decide +kernel⟩)
  have hsame : (twoConnects "token" ⟨"first", "key"⟩).map Episode.veil
      = (twoConnects "secret" ⟨"other", "word"⟩).map Episode.veil := by
    simp only [twoConnects, List.map_append, List.map_cons, Episode.veil, Request.veil, htoken,
      hcert]
  have hheard : l.heard obliging (twoConnects "token" ⟨"first", "key"⟩)
      = l.heard obliging (twoConnects "secret" ⟨"other", "word"⟩) := by
    cases hl
    decide +kernel
  refine ⟨l, hl, ?_, secrets_unseen hl hl hsame hheard⟩
  cases hl
  decide +kernel

end Link

end DeviceLink
