import DeviceLink.Proofs.Link.Worker
import DeviceLink.Proofs.Run

/-!
# The course of a link

What happens to a link, in any order: somebody submits an operation, the world of sessions moves,
a worker does one thing, the handle of a job is dropped late.  Nobody shuts it down.

* `World`, `Happening`, `Link.happens` — what may happen.
* `Link.follow` — a run, with a record that an observer keeps of it.
* `Link.Steady` — the shape of a link in every run.
* `Link.Works` — what the pipeline's worker can do in a link of that shape.
* **`Steady.happens`** — everything that happens keeps the shape.
-/

namespace DeviceLink

/-! ## Mailboxes that take no order to stop -/

namespace Dispatch.Mailbox

variable {J : Type}

/-- The worker runs and is not told to stop. -/
structure Serving (m : Mailbox J) : Prop where
  running : m.phase = .running
  noStop : ∀ c ∈ m.queue, ∃ job, c = .run job

lemma serving_new : ({} : Mailbox J).Serving := ⟨rfl, List.forall_mem_nil _⟩

variable {m : Mailbox J}

lemma Serving.put (h : m.Serving) (js : List J) : (m.put js).Serving where
  running := h.running
  noStop := by
    intro c hc
    rcases List.mem_append.mp hc with hc | hc
    · exact h.noStop c hc
    · obtain ⟨job, -, rfl⟩ := List.mem_map.mp hc
      exact ⟨job, rfl⟩

lemma Serving.offer (h : m.Serving) (js : List J) : m.offer js = m.put js :=
  offer_of_running h.running js

lemma Serving.turn_cases (h : m.Serving) :
    m.turn = .none ∧ m.queue = [] ∨
      ∃ job rest, m.queue = .run job :: rest ∧ m.turn = .job job { m with queue := rest } ∧
        ({ m with queue := rest } : Mailbox J).Serving := by
  obtain ⟨queue, phase, joinable⟩ := m
  cases (h.running : phase = .running)
  cases queue with
  | nil => exact .inl ⟨rfl, rfl⟩
  | cons c rest =>
      obtain ⟨job, rfl⟩ := h.noStop c List.mem_cons_self
      exact .inr ⟨job, rest, rfl, rfl, rfl, fun c hc => h.noStop c (List.mem_cons_of_mem _ hc)⟩

lemma Serving.not_leaves (h : m.Serving) (left : Mailbox J) : ¬ m.Leaves left := by
  rcases h.turn_cases with ⟨hturn, -⟩ | ⟨job, rest, -, hturn, -⟩ <;>
    rintro (he | ⟨dropped, he⟩) <;> cases hturn.symm.trans he

end Dispatch.Mailbox

open Dispatch

/-! ## What happens -/

variable {κ ω ε γ : Type}

/-- A world of sessions with what happens in it by itself. -/
structure World (ω ε : Type) where
  model : SessionModel ω
  /-- Something happens, with the reports made of it, if it can happen. -/
  stir : ω → ε → Option (List Report × ω)

/-- One thing that happens to a link. -/
inductive Happening (κ ε : Type) where
  /-- A thread outside, or the user's code on a worker, submits an operation. -/
  | submit (caller : Option Context) (request : Request) (callback : κ)
  /-- Something happens in the world of sessions. -/
  | stir (e : ε)
  /-- The pipeline's worker does one thing. -/
  | work
  /-- The callback worker takes a piece of the user's code. -/
  | beginUser
  /-- That piece returns, or panics. -/
  | endUser (panic : Option String)
  /-- The handle of the job that the pipeline's worker has under way is kept so far, or dropped. -/
  | handle (kept : Bool)

namespace Link

variable {W : World ω ε} {M : SessionModel ω} {l l' : Link κ ω}

/-- **One thing happens**, if it can happen. -/
def happens (W : World ω ε) (l : Link κ ω) : Happening κ ε → Option (Link κ ω)
  | .submit caller request callback => some (l.submit caller request callback)
  | .stir e => (W.stir l.world e).map fun r => l.happen r.1 r.2
  | .work => l.pipelineStep W.model
  | .beginUser => l.beginUser
  | .endUser panic => l.user.map fun _ => l.endUser panic
  | .handle kept => some { l with handleKept := kept }

/-- **A run**, with the record of an observer who sees the link before and after everything that
happens.  What cannot happen is passed over. -/
def follow (W : World ω ε) (note : Happening κ ε → Link κ ω → Link κ ω → γ → γ) :
    Link κ ω × γ → List (Happening κ ε) → Link κ ω × γ :=
  runWith (happens W) id note

/-! ## The shape of a link -/

/-- **The shape of a link that nobody shuts down.**  Both workers run; the operations that wait for
the pipeline's worker, or are with the stage, have different numbers. -/
structure Steady (l : Link κ ω) : Prop where
  lone : l.activity.Lone
  inbox : l.inbox.Serving
  outbox : l.outbox.Serving
  noAbandon : .abandon ∉ Mailbox.jobs l.inbox.queue
  distinct : ((l.queued ++ l.activity.inHand).map Operation.id).Nodup
  known : ∀ op ∈ l.queued ++ l.activity.inHand, op.id < l.nextId

lemma steady_build {c : PipelineConfig} {listens : Bool} {world : ω}
    (h : Link.build c listens (some world) = .ok l) : l.Steady := by
  cases h
  exact ⟨Activity.lone_new _, Mailbox.serving_new, Mailbox.serving_new, List.not_mem_nil,
    List.nodup_nil, List.forall_mem_nil _⟩

lemma Steady.sound (h : l.Steady) : l.Sound :=
  ⟨h.lone.single, fun _ => h.inbox.running, h.distinct, h.known⟩

/-! ## What a step leaves as it is -/

lemma happen_eq (h : l.inbox.Serving) (reports : List Report) (world : ω) :
    l.happen reports world
      = { l with world, inbox := l.inbox.put (reports.map Job.report) } := by
  rw [happen_eq_offer, h.offer]

/-- A submitted operation is queued under a new number, and nothing else changes but what is written
down. -/
lemma exists_submit_eq (h : l.inbox.Serving) (caller : Option Context) (request : Request)
    (callback : κ) :
    ∃ log, l.submit caller request callback
      = { l with
          nextId := l.nextId + 1
          inbox := l.inbox.put [.run (l.fresh request callback)]
          log } := by
  rw [← h.offer]
  exact l.exists_submit_eq_offer caller request callback

/-! ## What the pipeline's worker does -/

/-- **What the pipeline's worker can do** in a link in shape. -/
inductive Works (M : SessionModel ω) (l : Link κ ω) : Link κ ω → Prop where
  /-- The root takes what it is handed, and the stage goes on. -/
  | chain {c : ChainCall κ} {frame : Frame κ} {a : Activity κ} {traces : List (Trace κ)}
      (hlevels : l.activity.levels = [(.chain c, frame)])
      (hstep : l.activity.step .proceed = some (a, traces)) (log : List LogRecord)
      (sink : Unhandled) :
      Works M l { l with
        activity := a
        root := (l.root.handle c).1
        outbox := l.outbox.put (calls (l.root.handle c).2)
        log, sink }
  /-- A session is made, or is not, and the stage goes on. -/
  | create {args : ConnectionArgs} {frame : Frame κ} {a : Activity κ} {traces : List (Trace κ)}
      (hlevels : l.activity.levels = [(.create args, frame)])
      (hstep : l.activity.step (.created (M.create l.world args).1) = some (a, traces))
      (log : List LogRecord) (sink : Unhandled) :
      Works M l { l with activity := a, world := (M.create l.world args).2, log, sink }
  /-- A call of a session makes a step. -/
  | call {session : SessionId} {c : SessionCall} {frame : Frame κ} {reports : List Report}
      {world : ω} (hlevels : l.activity.levels = [(.call session c, frame)])
      (hcall : M.step l.world session c = (none, reports, world)) :
      Works M l { l with world, inbox := l.inbox.put (reports.map Job.report) }
  /-- A call of a session ends, and the stage goes on. -/
  | answer {session : SessionId} {c : SessionCall} {frame : Frame κ} {answer : Answer}
      {reports : List Report} {world : ω} {a : Activity κ} {traces : List (Trace κ)}
      (hlevels : l.activity.levels = [(.call session c, frame)])
      (hcall : M.step l.world session c = (some answer, reports, world))
      (hstep : l.activity.step (ended answer) = some (a, traces)) (log : List LogRecord)
      (sink : Unhandled) :
      Works M l { l with
        activity := a
        world
        inbox := l.inbox.put (reports.map Job.report)
        log, sink }
  /-- The next job starts. -/
  | job {job : Job κ} {rest : List (Command (Job κ))} {a : Activity κ} {traces : List (Trace κ)}
      (hlevels : l.activity.levels = []) (hqueue : l.inbox.queue = .run job :: rest)
      (hstep : l.activity.step (start job) = some (a, traces)) (log : List LogRecord)
      (sink : Unhandled) :
      Works M l { l with activity := a, inbox := { l.inbox with queue := rest }, log, sink }

lemma Steady.byWorker_start (h : l.Steady) (hlevels : l.activity.levels = []) {job : Job κ}
    {rest : List (Command (Job κ))} (hqueue : l.inbox.queue = .run job :: rest) :
    l.activity.ByWorker (start job) := by
  cases job with
  | run op => exact ⟨rfl, hlevels⟩
  | report r => exact hlevels
  | abandon =>
      refine h.noAbandon ?_
      rw [hqueue]
      exact List.mem_cons_self

/-- **What the pipeline's worker does** in a link in shape. -/
theorem Steady.works (h : l.Steady) (hs : l.pipelineStep M = some l') : Works M l l' := by
  cases h.sound.tasks hs with
  | chain hlevels hstep log sink =>
      rw [h.outbox.offer]
      exact .chain hlevels hstep log sink
  | create hlevels hstep log sink => exact .create hlevels hstep log sink
  | call hlevels hcall => exact .call hlevels hcall
  | answer hlevels hcall hstep log sink => exact .answer hlevels hcall hstep log sink
  | @release session frame _ _ hlevels hstep log sink =>
      have hstill := h.lone.still _ (Activity.mem_of_levels hlevels)
      cases frame <;> exact hstill.elim
  | job hlevels hphase hqueue hstep log sink => exact .job hlevels hqueue hstep log sink
  | leave hlevels hleaves log => exact (h.inbox.not_leaves _ hleaves).elim

/-- The pipeline's worker rests only when nothing is under way and no job waits. -/
lemma Steady.rests (h : l.Steady) (hs : l.pipelineStep M = none) :
    l.activity.levels = [] ∧ l.inbox.queue = [] := by
  rw [pipelineStep] at hs
  cases hask : l.activity.asked? with
  | none =>
      rw [Activity.asked?, Option.map_eq_none_iff, List.head?_eq_none_iff] at hask
      refine ⟨hask, ?_⟩
      rcases h.inbox.turn_cases with ⟨-, hempty⟩ | ⟨job, rest, -, hturn, -⟩
      · exact hempty
      · rw [Activity.asked?_of_nil hask, hturn] at hs
        cases hs
  | some ask =>
      simp only [hask] at hs
      split at hs <;> cases hs

/-! ## The shape is kept -/

lemma noAbandon_put_reports {m : Mailbox (Job κ)} (h : .abandon ∉ Mailbox.jobs m.queue)
    (reports : List Report) : .abandon ∉ Mailbox.jobs (m.put (reports.map Job.report)).queue := by
  rw [Mailbox.jobs_put]
  intro hm
  rcases List.mem_append.mp hm with hm | hm
  · exact h hm
  · obtain ⟨r, -, hr⟩ := List.mem_map.mp hm
    cases hr

/-- A move of the worker keeps the stage's shape, and different numbers. -/
lemma Steady.advance (h : l.Steady) {m : Move κ} {a : Activity κ} {traces : List (Trace κ)}
    (hm : l.activity.ByWorker m)
    (fresh : ∀ op ∈ m.brings, l.activity.stage.awaiting? op.id = none)
    (hs : l.activity.step m = some (a, traces)) {later : List (Operation κ)}
    (hq : l.queued = m.brings ++ later) :
    a.Lone ∧ ((later ++ a.inHand).map Operation.id).Nodup ∧
      ∀ op ∈ later ++ a.inHand, op.id < l.nextId :=
  ⟨h.lone.step hm fresh hs, (h.sound.advance hm.driven fresh hs hq).2⟩

lemma Steady.of_works (h : l.Steady) (hw : Works M l l') : l'.Steady := by
  cases hw with
  | chain hlevels hstep log sink =>
      obtain ⟨hlone, hd, hk⟩ := h.advance (m := .proceed) trivial (List.forall_mem_nil _) hstep rfl
      exact ⟨hlone, h.inbox, h.outbox.put _, h.noAbandon, hd, hk⟩
  | create hlevels hstep log sink =>
      obtain ⟨hlone, hd, hk⟩ :=
        h.advance (m := .created _) trivial (List.forall_mem_nil _) hstep rfl
      exact ⟨hlone, h.inbox, h.outbox, h.noAbandon, hd, hk⟩
  | call hlevels hcall =>
      refine ⟨h.lone, h.inbox.put _, h.outbox, noAbandon_put_reports h.noAbandon _, ?_, ?_⟩
      · rw [queued, queued_put_reports]
        exact h.distinct
      · rw [queued, queued_put_reports]
        exact h.known
  | @answer session c frame answer reports world a traces hlevels hcall hstep log sink =>
      obtain ⟨hlone, hd, hk⟩ := h.advance (byWorker_ended answer hlevels)
        (by rw [brings_ended]; exact List.forall_mem_nil _) hstep
        (by rw [brings_ended, List.nil_append])
      refine ⟨hlone, h.inbox.put _, h.outbox, noAbandon_put_reports h.noAbandon _, ?_, ?_⟩
      · rw [queued, queued_put_reports]
        exact hd
      · rw [queued, queued_put_reports]
        exact hk
  | @job job rest a traces hlevels hqueue hstep log sink =>
      obtain ⟨hlone, hd, hk⟩ := h.advance (h.byWorker_start hlevels hqueue)
        (h.sound.fresh_start hqueue) hstep (queued_of_job hqueue)
      refine ⟨hlone, ?_, h.outbox, ?_, hd, hk⟩
      · exact ⟨h.inbox.running, fun c hc => h.inbox.noStop c (by
          rw [hqueue]; exact List.mem_cons_of_mem _ hc)⟩
      · intro hm
        exact h.noAbandon (by rw [hqueue]; exact List.mem_cons_of_mem _ hm)

lemma bring_eq (h : l.inbox.Serving) (request : Request) (callback : Option κ) :
    l.bring request callback
      = { l with
          nextId := l.nextId + 1
          inbox := l.inbox.put [.run { id := l.nextId, request, callback }] } := by
  rw [bring, send_eq_offer, h.offer]

lemma Steady.bring (h : l.Steady) (request : Request) (callback : Option κ) :
    (l.bring request callback).Steady := by
  have hsound := h.sound.bring request callback
  rw [bring_eq h.inbox] at hsound ⊢
  refine ⟨h.lone, h.inbox.put _, h.outbox, ?_, hsound.distinct, hsound.known⟩
  rw [Mailbox.jobs_put]
  simpa using h.noAbandon

lemma Steady.submit (h : l.Steady) (caller : Option Context) (request : Request) (callback : κ) :
    (l.submit caller request callback).Steady := by
  obtain ⟨hlone, hinbox, houtbox, hnone, hdistinct, hknown⟩ := h.bring request (some callback)
  exact ⟨hlone, hinbox, houtbox, hnone, hdistinct, hknown⟩

lemma Steady.happen (h : l.Steady) (reports : List Report) (world : ω) :
    (l.happen reports world).Steady := by
  have hsound := h.sound.offer (filterMap_operation_reports reports) world
  rw [happen_eq h.inbox]
  rw [h.inbox.offer] at hsound
  exact ⟨h.lone, h.inbox.put _, h.outbox, noAbandon_put_reports h.noAbandon _, hsound.distinct,
    hsound.known⟩

lemma Steady.beginUser_cases (h : l.Steady) (hs : l.beginUser = some l') :
    ∃ c rest, l.user = none ∧ l.outbox.queue = .run c :: rest ∧
      l' = { l with outbox := { l.outbox with queue := rest }, user := some c } := by
  rw [beginUser] at hs
  cases hu : l.user with
  | some c =>
      rw [hu] at hs
      cases hs
  | none =>
      simp only [hu] at hs
      rcases h.outbox.turn_cases with ⟨hturn, -⟩ | ⟨c, rest, hqueue, hturn, -⟩
      · rw [hturn] at hs
        cases hs
      · rw [hturn] at hs
        exact ⟨c, rest, rfl, hqueue, (Option.some.inj hs).symm⟩

lemma Steady.beginUser (h : l.Steady) (hs : l.beginUser = some l') : l'.Steady := by
  obtain ⟨c, rest, -, hqueue, rfl⟩ := h.beginUser_cases hs
  refine ⟨h.lone, h.inbox, ⟨h.outbox.running, ?_⟩, h.noAbandon, h.distinct, h.known⟩
  exact fun d hd => h.outbox.noStop d (by rw [hqueue]; exact List.mem_cons_of_mem _ hd)

/-- **Everything that happens keeps the shape.** -/
theorem Steady.happens (h : l.Steady) {happening : Happening κ ε}
    (hs : l.happens W happening = some l') : l'.Steady := by
  cases happening with
  | submit caller request callback =>
      cases hs
      exact h.submit caller request callback
  | stir e =>
      obtain ⟨⟨reports, world⟩, -, rfl⟩ := Option.map_eq_some_iff.mp hs
      exact h.happen reports world
  | work => exact h.of_works (h.works hs)
  | beginUser => exact h.beginUser hs
  | endUser panic =>
      obtain ⟨log, sink, rfl⟩ := exists_eq_of_endUser hs
      exact ⟨h.lone, h.inbox, h.outbox, h.noAbandon, h.distinct, h.known⟩
  | handle kept =>
      cases hs
      exact ⟨h.lone, h.inbox, h.outbox, h.noAbandon, h.distinct, h.known⟩

end Link

end DeviceLink
